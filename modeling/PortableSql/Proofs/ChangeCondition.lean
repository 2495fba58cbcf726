import PortableSql.Proofs.ComparisonForm
import PortableSql.Proofs.Junction

/-! The conditions of changes.

Spanner writes every change with a where clause. The condition is the restriction of the change if that
has an atom, and otherwise the constant that always holds; the two are never confused, because every
predicate with an atom is written with a blank or an operator (`Render.predicate_tells`).
-/

set_option autoImplicit false

namespace PortableSql

variable {config : Config}

namespace Fragment

def isSign (c : Char) : Bool :=
  c == ' ' || c == '=' || c == '<' || c == '>'

/-- Whether the text of a fragment, if it does not fail, has a blank or an operator in it. -/
def Tells (config : Config) (fragment : Fragment) : Prop :=
  fragment.failure = none → ∃ c ∈ (fragment.sql config).toList, isSign c = true

namespace Tells

variable {fragment first second : Fragment}

theorem fail (cause : Error) : Tells config (.fail cause) := nofun

theorem text {words : String} (sign : words.toList.any isSign = true) : Tells config (.text words) := by
  intro _
  rw [sql_text]
  exact List.any_eq_true.mp sign

theorem left (tells : Tells config first) : Tells config (first ++ second) := by
  intro whole
  obtain ⟨head, _⟩ := failure_append_eq_none.mp whole
  obtain ⟨c, mem, sign⟩ := tells head
  refine ⟨c, ?_, sign⟩
  rw [sql_append head, String.toList_append]
  exact List.mem_append_left _ mem

theorem right (tells : Tells config second) : Tells config (first ++ second) := by
  intro whole
  obtain ⟨head, rest⟩ := failure_append_eq_none.mp whole
  obtain ⟨c, mem, sign⟩ := tells rest
  refine ⟨c, ?_, sign⟩
  rw [sql_append head, String.toList_append]
  exact List.mem_append_right _ mem

theorem parens (tells : Tells config fragment) : Tells config (.parens fragment) :=
  left (right tells)

theorem separated {separator : String} {fragments : List Fragment} (mem : fragment ∈ fragments)
    (tells : Tells config fragment) : Tells config (.separated separator fragments) := by
  induction fragments with
  | nil => contradiction
  | cons head rest ih =>
    cases rest with
    | nil =>
      cases List.mem_singleton.mp mem
      exact tells
    | cons next rest =>
      rcases List.mem_cons.mp mem with rfl | mem
      · exact left (left tells)
      · exact right (ih mem)

theorem offer {construct : Construct} {answer : Option Fragment} {standard : Fragment}
    (tells : Tells config (answer.getD standard)) : Tells config (.offer construct answer standard) :=
  right tells

/-- What tells something is neither empty nor the constant that always holds. -/
theorem ne (tells : Tells config fragment) (whole : fragment.failure = none) :
    fragment.sql config ≠ "" ∧ fragment.sql config ≠ "true" := by
  obtain ⟨c, mem, sign⟩ := tells whole
  constructor
  · intro empty
    simp [empty] at mem
  · intro constant
    rw [constant] at mem
    revert sign
    simp at mem
    rcases mem with rfl | rfl | rfl | rfl <;> decide

end Tells

end Fragment

namespace RowValue

open Fragment

theorem compare_tells (left : Fragment) (op : ComparisonOp) (right : Fragment) :
    Tells config (compare left op right) := by
  refine .left (.right (.text ?_))
  cases op <;> decide

theorem lexicographic_tells (op : ComparisonOp) (ranges : Bool) {left right : List Fragment}
    (same : left.length = right.length) (inhabited : left ≠ []) :
    Tells config (lexicographic op ranges left right) := by
  induction left, right, same, inhabited using Row.induction with
  | single l r => exact compare_tells l op r
  | more l r l' r' left right same ih =>
    rw [lexicographic]
    · cases ranges with
      | true => exact .left (.left (compare_tells l op.inclusive r))
      | false => exact .left (.left (.left (.left (compare_tells l op.strict r))))
    · nofun

theorem pairwise_tells (op : ComparisonOp) (separator : String) (l r : Fragment)
    (left right : List Fragment) :
    Tells config (.separated separator (pairwise op (l :: left) (r :: right))) :=
  .separated List.mem_cons_self (compare_tells l op r)

theorem expand_tells (ranges : Bool) (left right : List Fragment) (op : ComparisonOp) :
    Tells config (expand ranges left right op) := by
  unfold expand
  split
  · exact .fail _
  · next same =>
    match left, right, not_not.mp same with
    | [], [], _ => exact .fail _
    | [l], [r], _ => exact compare_tells l op r
    | l :: l' :: left, r :: r' :: right, same =>
      cases op with
      | eq | ne => exact .parens (pairwise_tells _ _ l r _ _)
      | lt | lte | gt | gte => exact .parens (lexicographic_tells _ ranges same (List.cons_ne_nil l _))
      | distinctFrom | notDistinctFrom => exact .fail _

end RowValue

namespace Render

open Fragment

variable (target : Target)

theorem rowComparison_tells (left right : List Fragment) (op : ComparisonOp) :
    Tells config (rowComparison target left right op) := by
  obtain ⟨dialect, _⟩ := target
  cases dialect <;> exact .offer (RowValue.expand_tells _ left right op)

theorem form_tells (form : Spanner.ComparisonForm) : Tells config (form.fragment target) := by
  cases form with
  | membership left nested negated => exact .left (.right (.text (by cases negated <;> decide)))
  | intersection left right negated =>
    rw [Spanner.ComparisonForm.fragment, RowValue.intersection]
    exact .left (.left (.right (.text (by decide))))
  | rows left right op => exact rowComparison_tells target _ _ op
  | existence row nested op negated =>
    rw [Spanner.ComparisonForm.fragment, RowValue.existence]
    split
    · exact .fail _
    · exact .left (.left (.left (.left (.left (.right (.text (by decide)))))))
  | native left op right => exact RowValue.compare_tells _ op _

theorem comparison_tells (left : Expr) (op : ComparisonOp) (right : Expr) :
    Tells config (comparison target (operand target left) op (operand target right)) := by
  obtain ⟨dialect, _⟩ := target
  cases dialect with
  | generic => exact .offer (RowValue.compare_tells _ op _)
  | spanner =>
    refine .offer ?_
    simp only [Target.overrides, Dialect.overrides, Spanner.overrides, Option.getD_some,
      Spanner.ComparisonForm.comparison_eq]
    exact form_tells _ _

theorem like_tells (node : Like) (expr pattern : Fragment) (escape : Option Fragment) :
    Tells config (like target node expr pattern escape) := by
  have standard (caseSensitive : Bool) (pattern : Fragment) (escape : Option Fragment) :
      Tells config (Pattern.standard caseSensitive node.negated expr pattern escape) := by
    rw [Pattern.standard]
    exact .left (.left (.right (.text (by cases caseSensitive <;> decide))))
  have unescaped (dialectConfig : Config) (caseSensitive : Bool) (pattern : Fragment) :
      Tells config (Pattern.unescaped dialectConfig caseSensitive node.negated expr pattern) := by
    cases caseSensitive with
    | true => exact standard true pattern none
    | false => exact .left (.left (.left (.right (.text (by decide)))))
  obtain ⟨dialect, dialectConfig⟩ := target
  refine .offer ?_
  cases dialect with
  | generic => exact standard _ _ _
  | spanner =>
    simp only [Target.overrides, Dialect.overrides, Spanner.overrides, Spanner.like]
    cases node.escape with
    | none =>
      cases sensitive : node.caseSensitive with
      | true => exact standard true pattern escape
      | false => exact unescaped dialectConfig false pattern
    | some given =>
      simp only [Option.getD_some]
      split
      · exact .fail _
      · split
        · exact unescaped dialectConfig _ _
        · split
          · exact .fail _
          · exact unescaped dialectConfig _ _

/-- A predicate with an atom is written with a blank or an operator. -/
theorem predicate_tells (p : Predicate) (inhabited : p.isEmpty = false) :
    Tells config (predicate target p) := by
  induction p using Predicate.induction with
  | atom p isAtom =>
    cases p with
    | junction | negation => contradiction
    | comparison left op right => exact comparison_tells target left op right
    | inList test values negated =>
      show Tells config (inList _ _ negated)
      rw [inList]
      split
      · exact .text (by cases negated <;> decide)
      · exact .left (.right (.text (by cases negated <;> decide)))
    | inSubquery test nested negated => exact .left (.right (.text (by cases negated <;> decide)))
    | inArray test array =>
      obtain ⟨dialect, dialectConfig⟩ := target
      cases dialect with
      | generic => exact .offer (.left (.right (.text (by decide))))
      | spanner => exact .offer (.left (.right (.text (by decide))))
    | like node =>
      obtain ⟨matched, pattern, escape, caseSensitive, negated⟩ := node
      exact like_tells target _ _ _ _
    | nullness tested negated => exact .right (.text (by cases negated <;> decide))
    | between tested low high negated =>
      exact .left (.left (.left (.right (.text (by cases negated <;> decide)))))
    | existence nested negated => exact .left (.right (.text (by decide)))
  | negation inner ih => exact .left (.text (by decide))
  | junction kind parts ih =>
    rw [Predicate.isEmpty, Predicate.allEmpty_eq_all, List.all_eq_false] at inhabited
    obtain ⟨part, mem, effective⟩ := inhabited
    have effective : part.isEmpty = false := eq_false_of_ne_true effective
    have own := ih part mem effective
    obtain ⟨fragment, written, tells⟩ :
        ∃ fragment, junctionPart part (predicate target part) = [fragment] ∧ Tells config fragment := by
      simp only [junctionPart, effective, Bool.false_eq_true, if_false]
      split
      · exact ⟨_, rfl, own.parens⟩
      · exact ⟨_, rfl, own⟩
    rw [predicate, junctionParts_eq_flatMap]
    exact .separated (List.mem_flatMap.mpr ⟨part, mem, written ▸ List.mem_singleton_self fragment⟩) tells

end Render

theorem Predicate.effective?_eq_none {restriction : Option Predicate} :
    effective? restriction = none ↔ ∀ p ∈ restriction, p.atoms = [] := by
  cases restriction with
  | none => simp [effective?]
  | some p => cases empty : p.isEmpty <;> simp [effective?, empty, atoms_eq_nil_iff]

theorem Predicate.effective?_eq_some {restriction : Option Predicate} {p : Predicate} :
    effective? restriction = some p ↔ restriction = some p ∧ p.isEmpty = false := by
  cases restriction with
  | none => simp [effective?]
  | some q =>
    rw [effective?]
    split
    · next empty =>
      simp only [reduceCtorEq, Option.some.injEq, false_iff, not_and, Bool.not_eq_false]
      rintro rfl
      exact empty
    · next inhabited =>
      simp only [Option.some.injEq, iff_self_and]
      rintro rfl
      exact eq_false_of_ne_true inhabited

def NamedTable.text (table : NamedTable) : String :=
  table.table ++ table.aliasName.elim "" (" " ++ ·)

def ColumnRef.text (column : ColumnRef) : String :=
  column.qualifier.elim "" (· ++ ".") ++ column.name

/-- The clause for what a change returns, if it returns anything. -/
def returningText (columns : List ColumnRef) : String :=
  if columns.isEmpty then "" else " returning " ++ ",".intercalate (columns.map ColumnRef.text)

def Session.assignmentsText (session : Session) (items : List Assignment) : String :=
  ",".intercalate (items.map fun item => item.column.name ++ "=" ++ session.textOf (.expr item.value))

/-- What the condition of a change is: never nothing, the constant that always holds if and only if the
restriction has no atom, and otherwise the text of the restriction. -/
structure Session.Guards (session : Session) (restriction : Option Predicate) (condition : String) :
    Prop where
  present : condition ≠ ""
  constant : condition = "true" ↔ ∀ p ∈ restriction, p.atoms = []
  written : ∀ p ∈ restriction, p.atoms ≠ [] → condition = session.textOf (.predicate p)

namespace Render

open Fragment

theorem columnRef_adds (column : ColumnRef) : Adds config column.fragment column.text := by
  obtain ⟨qualifier, name, sqlType⟩ := column
  cases qualifier with
  | none => exact (Adds.nil.append (.text name)).congr rfl
  | some qualifier => exact ((Adds.text qualifier).append (.text ".")).append (.text name)

theorem returning_adds (columns : List ColumnRef) :
    Adds config (returning columns) (returningText columns) := by
  have list : Adds config (.separated "," (columns.map (·.fragment)))
      (",".intercalate (columns.map ColumnRef.text)) := by
    refine (Adds.separated ?_).congr ?_
    · intro fragment mem
      obtain ⟨column, _, rfl⟩ := List.mem_map.mp mem
      exact (columnRef_adds column : Adds config _ _).whole
    · rw [List.map_map]
      exact congrArg _ (List.map_congr_left fun column _ => (columnRef_adds column).sql)
  cases columns with
  | nil => exact .nil
  | cons column columns => exact (((Adds.text " returning ").append list).inClause .returning).onlyIf true

theorem dmlTarget_adds {clause : Clause} (change : clause ≠ .insert) (table : NamedTable) :
    Adds config (dmlTarget ⟨.spanner, config⟩ (some clause) table) table.text := by
  obtain ⟨name, aliasName⟩ := table
  have named : Adds config (.table name) name :=
    ⟨rfl, by simp [Fragment.table, sql, Mark.sqlText, Mark.sql]⟩
  have answer : Adds config (Spanner.dmlTarget (some clause) ⟨name, aliasName⟩)
      (NamedTable.text ⟨name, aliasName⟩) := by
    have written : (some clause != some Clause.insert) = true := by simpa using change
    rw [Spanner.dmlTarget, written]
    cases aliasName with
    | none => exact named.append .nil
    | some aliasName => exact named.append ((Adds.text " ").append (.text aliasName))
  exact ⟨by rw [dmlTarget, failure_offer]; exact answer.whole,
    by rw [dmlTarget]; exact (sql_offer_some ..).trans answer.sql⟩

/-- A change is written with the condition that always holds in the place of its restriction if and
only if the restriction has no atom. -/
theorem guarded_sql (session : Session) (construct : Construct) (guard : Option Predicate)
    {head columns : Fragment} {returned : String} (after : Adds session.target.config columns returned)
    (whole : (Fragment.offer construct (Spanner.unrestricted guard head columns)
      (head ++ restriction session.target .restriction " where " guard ++ columns)).failure = none) :
    head.failure = none ∧ ∃ condition, session.Guards guard condition ∧
      (Fragment.offer construct (Spanner.unrestricted guard head columns)
        (head ++ restriction session.target .restriction " where " guard ++ columns)).sql
          session.target.config =
        head.sql session.target.config ++ " where " ++ condition ++ returned := by
  cases effective : Predicate.effective? guard with
  | none =>
    have none := Predicate.effective?_eq_none.mp effective
    simp only [Spanner.unrestricted, Predicate.restricts, effective, Option.isSome_none,
      Bool.false_eq_true, if_false, failure_offer, Option.getD_some, sql_offer_some] at whole ⊢
    obtain ⟨head_whole, _⟩ := failure_append_eq_none.mp (failure_append_eq_none.mp whole).1
    have head_adds : Adds session.target.config head (head.sql session.target.config) := ⟨head_whole, rfl⟩
    refine ⟨head_whole, "true", ⟨by decide, ?_, ?_⟩, ?_⟩
    · exact iff_of_true rfl none
    · exact fun p present inhabited => absurd (none p present) inhabited
    · have words : " where " ++ "true" = " where true" := by decide
      rw [((head_adds.append (.text " where true")).append after).sql, ← words, ← String.append_assoc]
  | some p =>
    obtain ⟨rfl, inhabited⟩ := Predicate.effective?_eq_some.mp effective
    have standard : Spanner.unrestricted (some p) head columns = none := by
      simp [Spanner.unrestricted, Predicate.restricts, effective]
    have guarded : restriction session.target .restriction " where " (some p) =
        .inClause .restriction (.text " where " ++ predicate session.target p) := by
      simp [restriction, RowValue.restriction, condition, inhabited, ifSome]
    simp only [standard, guarded, failure_offer, Option.getD_none] at whole ⊢
    obtain ⟨before, _⟩ := failure_append_eq_none.mp whole
    obtain ⟨head_whole, middle⟩ := failure_append_eq_none.mp before
    rw [failure_inClause] at middle
    have p_whole := (failure_append_eq_none.mp middle).2
    have head_adds : Adds session.target.config head (head.sql session.target.config) := ⟨head_whole, rfl⟩
    have p_adds : Adds session.target.config (predicate session.target p)
        ((predicate session.target p).sql session.target.config) := ⟨p_whole, rfl⟩
    obtain ⟨present, apart⟩ := (predicate_tells session.target p inhabited).ne p_whole
    refine ⟨head_whole, _, ⟨present, ?_, ?_⟩, ?_⟩
    · refine iff_of_false apart fun none => ?_
      have empty := (Predicate.atoms_eq_nil_iff p).mp (none p rfl)
      exact absurd empty (ne_true_of_eq_false inhabited)
    · rintro q ⟨⟩ _
      exact (session.textOf_eq (.predicate p)).symm
    · have all := (head_adds.append (((Adds.text " where ").append p_adds).inClause .restriction)).append after
      rw [Fragment.offer, Option.getD_none, sql_append (failure_mark _), sql_offer, all.sql]
      simp [String.append_assoc]

theorem assignments_sql (session : Session) (items : List Assignment)
    (whole : (assignments session.target items).failure = none) :
    (assignments session.target items).sql session.target.config = session.assignmentsText items := by
  have written (item : Assignment) (member : item ∈ items) :
      Adds session.target.config
        (.text item.column.name ++ .text "=" ++ expr session.target item.value)
        (item.column.name ++ "=" ++ session.textOf (.expr item.value)) := by
    rw [assignments, failure_separated, List.findSome?_eq_none_iff] at whole
    have own := whole _ (List.mem_map_of_mem member)
    exact ((Adds.text _).append (.text "=")).append
      ⟨(failure_append_eq_none.mp own).2, (session.textOf_eq (.expr item.value)).symm⟩
  rw [assignments, (Adds.separated ?_).sql, List.map_map]
  · exact congrArg _ (List.map_congr_left fun item member => (written item member).sql)
  · intro fragment mem
    obtain ⟨item, member, rfl⟩ := List.mem_map.mp mem
    exact (written item member).whole

end Render

/-- In Spanner every deletion and every update has a where clause, whatever its restriction is. The
dialect leaves the clause to the standard rendering if and only if that writes one. -/
theorem Session.changes_guarded (config : Config) (clauses : List Clause) (marks : List Mark) :
    let session : Session := ⟨⟨.spanner, config⟩, clauses, marks⟩
    (∀ change rendering, (Statement.delete change).render session.target = .ok rendering →
      ∃ condition, session.Guards change.restriction condition ∧
        rendering.sql = "delete from " ++ change.target.text ++ " where " ++ condition
          ++ returningText change.returning) ∧
    (∀ change rendering, (Statement.update change).render session.target = .ok rendering →
      ∃ condition, session.Guards change.restriction condition ∧
        rendering.sql = "update " ++ change.target.text ++ " set "
          ++ session.assignmentsText change.assignments ++ " where " ++ condition
          ++ returningText change.returning) ∧
    ∀ restriction head columns, Spanner.unrestricted restriction head columns = none ↔
      (Render.condition session.target restriction).isSome = true := by
  intro session
  refine ⟨fun change rendering rendered => ?_, fun change rendering rendered => ?_, ?_⟩
  · obtain ⟨whole, rfl⟩ := Fragment.rendering_eq_ok.mp rendered
    obtain ⟨_, condition, guards, text⟩ :=
      Render.guarded_sql session .delete change.restriction (Render.returning_adds change.returning) whole
    have head : Fragment.Adds config (Render.deleteClause session.target change.target)
        ("delete from " ++ change.target.text) :=
      ((Fragment.Adds.text _).append (Render.dmlTarget_adds (by decide) change.target)).inClause .delete
    exact ⟨condition, guards, text.trans (by rw [head.sql])⟩
  · obtain ⟨whole, rfl⟩ := Fragment.rendering_eq_ok.mp rendered
    obtain ⟨head_whole, condition, guards, text⟩ :=
      Render.guarded_sql session .update change.restriction (Render.returning_adds change.returning) whole
    have target : Fragment.Adds config (Render.updateClause session.target change.target)
        ("update " ++ change.target.text) :=
      ((Fragment.Adds.text _).append (Render.dmlTarget_adds (by decide) change.target)).inClause .update
    have items_whole : (Render.assignments session.target change.assignments).failure = none :=
      (Fragment.failure_append_eq_none.mp (Fragment.failure_append_eq_none.mp head_whole).2).2
    have items : Fragment.Adds config (Render.setClause session.target change.assignments)
        (" set " ++ session.assignmentsText change.assignments) :=
      ((Fragment.Adds.text _).append
        ⟨items_whole, Render.assignments_sql session _ items_whole⟩).inClause .assignments
    refine ⟨condition, guards, text.trans ?_⟩
    rw [(target.append items).sql]
    simp only [String.append_assoc]
  · intro restriction head columns
    rw [Render.condition_eq_map, Option.isSome_map, Spanner.unrestricted, Predicate.restricts]
    cases Predicate.effective? restriction <;> simp

/-- `delete from t where not (…) and a is null`, with nothing in the negation. -/
theorem Session.changes_guarded_delete :
    let tested : Predicate := .nullness (.column { name := "a" }) false
    let change : Delete :=
      { target := { table := "t" }
        restriction := some (.junction .and [.negation (.junction .or []), tested]) }
    ∃ rendering condition, (Statement.delete change).render ⟨.spanner, .spanner⟩ = .ok rendering ∧
      Session.Guards ⟨⟨.spanner, .spanner⟩, [], []⟩ change.restriction condition ∧
      rendering.sql = "delete from t where " ++ condition ∧ condition ≠ "true" := by
  intro tested change
  obtain ⟨condition, guards, text⟩ := (Session.changes_guarded .spanner [] []).1 change _ rfl
  refine ⟨_, condition, rfl, guards, ?_, fun constant => ?_⟩
  · simpa [NamedTable.text, returningText, change] using text
  · exact List.cons_ne_nil tested [] (guards.constant.mp constant _ rfl)

end PortableSql
