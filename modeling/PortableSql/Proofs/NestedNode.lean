import PortableSql.Proofs.NestedQuery

/-! Every node nests.

A comparison takes its operands apart in some of its forms, so that nodes are to nest that are not visited next.
With predicates and statements every node nests whose visited nodes have admitted names (`Render.node_nested`),
in each dialect.
-/

set_option autoImplicit false

namespace PortableSql

namespace Render

variable {target : Target} {Name : String → Prop}

theorem compare_nested {left right : Fragment} {op : ComparisonOp} (comparable : op.isDistinctness = false)
    (l : Nests target Name false 0 left 0) (r : Nests target Name false 0 right 0) :
    Nests target Name false 0 (RowValue.compare left op right) 0 := by
  have sign : Leads false 0 op.spacedText 0 := by cases op <;> first | contradiction | decide
  exact (l.ahead sign).append r

theorem pairwise_nested {left right : List Fragment} {op : ComparisonOp} (comparable : op.isDistinctness = false)
    (l : ∀ fragment ∈ left, Nests target Name false 0 fragment 0)
    (r : ∀ fragment ∈ right, Nests target Name false 0 fragment 0) :
    ∀ fragment ∈ RowValue.pairwise op left right, Nests target Name false 0 fragment 0 := by
  induction left generalizing right with
  | nil => exact fun _ mem => absurd mem List.not_mem_nil
  | cons first left ih =>
    cases right with
    | nil => exact fun _ mem => absurd mem List.not_mem_nil
    | cons second right =>
      obtain ⟨head, l⟩ := List.forall_mem_cons.mp l
      obtain ⟨head', r⟩ := List.forall_mem_cons.mp r
      exact List.forall_mem_cons.mpr ⟨compare_nested comparable head head', ih l r⟩

theorem lexicographic_nested {left right : List Fragment} {op : ComparisonOp} (ranges : Bool)
    (comparable : op.isDistinctness = false) (same : left.length = right.length) (inhabited : left ≠ [])
    (l : ∀ fragment ∈ left, Nests target Name false 0 fragment 0)
    (r : ∀ fragment ∈ right, Nests target Name false 0 fragment 0) :
    Nests target Name false 0 (RowValue.lexicographic op ranges left right) 0 := by
  have inclusive : op.inclusive.isDistinctness = false := by cases op <;> first | contradiction | rfl
  have strict : op.strict.isDistinctness = false := by cases op <;> first | contradiction | rfl
  induction left, right, same, inhabited using Row.induction with
  | single first second => exact compare_nested comparable (l _ (.head _)) (r _ (.head _))
  | more first second first' second' left right same ih =>
    obtain ⟨head, l⟩ := List.forall_mem_cons.mp l
    obtain ⟨head', r⟩ := List.forall_mem_cons.mp r
    have rest := ih l r
    have strictly := compare_nested strict head head'
    rw [RowValue.lexicographic]
    · cases ranges with
      | true =>
        have level : Nests target Name false 0 _ 0 :=
          ((strictly.ahead (by decide : Leads false 0 " or " 0)).append rest)
        exact ((compare_nested inclusive head head').ahead (by decide)).append level.freely.parens
      | false =>
        have equal : Nests target Name false 0 (RowValue.compare first .eq second) 0 := compare_nested rfl head head'
        refine (((strictly.ahead (by decide : Leads false 0 " or " 0)).append equal).ahead
          (by decide : Leads false 0 " and " 0)).append ?_
        split
        · exact rest.freely.parens
        · exact rest
    · exact List.cons_ne_nil _ _

theorem expand_nested {left right : List Fragment} {op : ComparisonOp} (ranges : Bool)
    (comparable : op.isDistinctness = false) (l : ∀ fragment ∈ left, Nests target Name false 0 fragment 0)
    (r : ∀ fragment ∈ right, Nests target Name false 0 fragment 0) :
    Nests target Name false 0 (RowValue.expand ranges left right op) 0 := by
  unfold RowValue.expand
  split
  · exact .fail false 0 _ 0
  · next same =>
    match left, right, not_not.mp same with
    | [], [], _ => exact .fail false 0 _ 0
    | [first], [second], _ => exact compare_nested comparable (l _ (.head _)) (r _ (.head _))
    | first :: first' :: left, second :: second' :: right, same =>
      have pairs (op : ComparisonOp) (comparable : op.isDistinctness = false) {separator : String}
          (leads : Leads false 0 separator 0) :
          Nests target Name false 0 (.parens (.separated separator
            (RowValue.pairwise op (first :: first' :: left) (second :: second' :: right)))) 0 :=
        (Nests.separated leads (pairwise_nested comparable l r)).freely.parens
      cases op with
      | eq => exact pairs .eq rfl (by decide)
      | ne => exact pairs .ne rfl (by decide)
      | lt | lte | gt | gte =>
        exact (lexicographic_nested ranges comparable same (List.cons_ne_nil first _) l r).freely.parens
      | distinctFrom | notDistinctFrom => contradiction

theorem rowComparison_nested {left right : List Fragment} {op : ComparisonOp}
    (comparable : op.isDistinctness = false) (l : ∀ fragment ∈ left, Nests target Name false 0 fragment 0)
    (r : ∀ fragment ∈ right, Nests target Name false 0 fragment 0) :
    Nests target Name false 0 (rowComparison target left right op) 0 := by
  have expanded (ranges : Bool) := expand_nested ranges comparable l r
  obtain ⟨dialect, config⟩ := target
  cases dialect with
  | generic => exact (expanded false).standard .rowComparison
  | spanner => exact (expanded true).offered .rowComparison

/-- An operand without the parentheses of a row. -/
theorem selected_nested {e : Expr} (own : (Node.expr e).Nested target Name)
    (items : ∀ node ∈ e.nodes, node.Nested target Name) :
    Nests target Name false 0 (operand target e).selected 0 := by
  cases e with
  | tuple list => exact .listed (exprs_nested items)
  | star | literal | column | parameter | arithmetic | function | window | subquery | summarization => exact own.alone

theorem intersection_nested {left right : Operand} (negated : Bool) (l : Nests target Name false 0 left.selected 0)
    (r : Nests target Name false 0 right.selected 0) :
    Nests target Name false 0 (RowValue.intersection left negated right) 0 := by
  have denial : Nests target Name false 0 (.onlyIf negated (.text "not ")) 0 := .onlyIf _ fun _ => .words (by decide)
  exact ((((denial.ahead (by decide : Leads false 0 "exists (select " 1)).append l.freely.deeper).ahead
    (by decide : Leads false 1 " intersect select " 1)).append r.freely.deeper).ahead (by decide)

theorem existence_nested {row : List Expr} {nested : Query} {op : ComparisonOp} (negated : Bool)
    (comparable : op.isDistinctness = false) (core : ∀ node ∈ nested.core, node.Nested target Name)
    (selected : ∀ node ∈ nested.selections.map (Node.expr ·.expr), node.Nested target Name)
    (items : ∀ node ∈ row.map Node.expr, node.Nested target Name) :
    Nests target Name false 0
      (RowValue.existence (rowComparison target) (exprs target row) (query target nested).parts op negated) 0 := by
  simp only [Query.core, List.forall_mem_append] at core
  obtain ⟨⟨⟨sources, restricted⟩, grouped⟩, having⟩ := core
  have inverted : op.invert.isDistinctness = false := by cases op <;> first | contradiction | rfl
  have denial : Nests target Name false 0 (.onlyIf negated (.text "not ")) 0 := .onlyIf _ fun _ => .words (by decide)
  have listed : Nests target Name true 0 (.onlyIf (!(groups target nested.sources).isEmpty)
      (.text " from " ++ .separated "," (groups target nested.sources))) 0 :=
    .onlyIf _ fun _ => (Nests.listed (groups_nested sources)).behind (by decide)
  have columns : ∀ fragment ∈ (selectionList target nested.selections).map Prod.fst,
      Nests target Name false 0 fragment 0 := by
    rw [selectionList_fst]
    exact List.forall_mem_map.mpr fun selection mem => (selected _ (List.mem_map_of_mem mem)).alone
  have compared := rowComparison_nested inverted columns (exprs_nested items)
  -- The condition of the query, in parentheses before the comparison.
  have guarded {restriction : Option Predicate}
      (visited : ∀ node ∈ Predicate.visited restriction, node.Nested target Name) :
      Nests target Name true 0
        (.ifSome (condition target restriction) fun fragment => .text "(" ++ fragment ++ .text ") and ") 0 :=
    condition_nested _ (fun _ own => (own.freely.deeper.behind (by decide)).ahead (by decide)) visited
  have head := (denial.ahead (by decide : Leads false 0 "exists (select 1" 1)).append listed.deeper
  have groups := ((restriction_nested .restriction (by decide : Leads true 0 " where " 0) restricted).append
    (Nests.clause (by decide : Leads true 0 " group by " 0) .groupBy (partitionItems_nested grouped))).ahead
      (by decide : Leads true 0 " having " 0)
  simp only [RowValue.existence, query_parts]
  split
  · exact .fail false 0 _ 0
  · split
    · exact (((head.append groups.deeper).append (guarded having).deeper).append compared.freely.deeper).ahead
        (by decide)
    · exact (((head.ahead (by decide : Leads false 1 " where " 1)).append (guarded restricted).deeper).append
        compared.freely.deeper).ahead (by decide)

theorem form_nested {left right : Expr} {op : ComparisonOp}
    (visited : ∀ node ∈ (Spanner.ComparisonForm.of left op right).visits, node.Nested target Name)
    (deeper : ∀ node ∈ (Spanner.ComparisonForm.of left op right).visits, ∀ inner ∈ node.visits .spanner,
      inner.Nested target Name) :
    Nests target Name false 0 ((Spanner.ComparisonForm.of left op right).fragment target) 0 := by
  revert visited deeper
  cases comparable : op.isDistinctness with
  | true =>
    have same : Spanner.ComparisonForm.of left op right = .intersection left right (op == .distinctFrom) :=
      if_pos comparable
    rw [same]
    intro visited deeper
    exact intersection_nested _ (selected_nested (visited (.expr left) (.head _)) (deeper (.expr left) (.head _)))
      (selected_nested (visited (.expr right) (.tail _ (.head _))) (deeper (.expr right) (.tail _ (.head _))))
  | false =>
    refine Spanner.ComparisonForm.of_cases left op right
      (motive := fun form => (∀ node ∈ form.visits, node.Nested target Name) →
        (∀ node ∈ form.visits, ∀ inner ∈ node.visits .spanner, inner.Nested target Name) →
        Nests target Name false 0 (form.fragment target) 0)
      ?intersection ?membership ?existence ?rows ?native
    case intersection =>
      intro visited deeper
      exact intersection_nested _ (selected_nested (visited (.expr left) (.head _)) (deeper (.expr left) (.head _)))
        (selected_nested (visited (.expr right) (.tail _ (.head _))) (deeper (.expr right) (.tail _ (.head _))))
    case membership =>
      rintro quantifier nested rfl visited _
      have word : Leads false 0 (if op == .ne then " not in " else " in ") 0 := by split <;> decide
      have own : Nests target Name false 0 (expr target left) 0 := (visited (.expr left) (.head _)).alone
      exact (own.ahead word).append (subquery_nested (visited (.query nested) (.tail _ (.head _))))
    case existence =>
      rintro row quantifier nested rfl rfl _ _ visited _
      simp only [Spanner.ComparisonForm.visits, List.forall_mem_append] at visited
      obtain ⟨⟨core, selected⟩, items⟩ := visited
      refine existence_nested _ ?_ core selected items
      cases op <;> cases quantifier <;> first | contradiction | rfl
    case rows =>
      rintro row others rfl rfl _ visited _
      obtain ⟨first, second⟩ := List.forall_mem_append.mp visited
      exact rowComparison_nested comparable (exprs_nested first) (exprs_nested second)
    case native =>
      intro visited _
      exact compare_nested comparable (visited (.expr left) (.head _)).alone
        (visited (.expr right) (.tail _ (.head _))).alone

theorem comparison_nested {left right : Expr} {op : ComparisonOp}
    (visited : ∀ node ∈ (Node.predicate (.comparison left op right)).visits target.dialect, node.Nested target Name)
    (deeper : ∀ node ∈ (Node.predicate (.comparison left op right)).visits target.dialect,
      ∀ inner ∈ node.visits target.dialect, inner.Nested target Name) :
    (Node.predicate (.comparison left op right)).Nested target Name := by
  intro _ _
  obtain ⟨dialect, config⟩ := target
  cases dialect with
  | spanner =>
    show Nests _ Name false 0 (.offer _ (some (Spanner.comparison _ _ _ _)) _) 0
    rw [Spanner.ComparisonForm.comparison_eq]
    exact (form_nested visited deeper).offered .comparison
  | generic =>
    have l : Nests ⟨.generic, config⟩ Name false 0 (operand ⟨.generic, config⟩ left).fragment 0 :=
      (visited (.expr left) (.head _)).alone
    have r : Nests ⟨.generic, config⟩ Name false 0 (operand ⟨.generic, config⟩ right).fragment 0 :=
      (visited (.expr right) (.tail _ (.head _))).alone
    refine Nests.standard .comparison ?_
    cases comparable : op.isDistinctness with
    | false => exact compare_nested comparable l r
    | true => exact (l.append (.distinctness rfl comparable)).append r

section

variable {matched pattern : Fragment} (first : Nests target Name false 0 matched 0)
  (second : Nests target Name false 0 pattern 0)

include first second

theorem standardMatch_nested (caseSensitive negated : Bool) {escape : Option Fragment}
    (escaped : ∀ fragment ∈ escape, Nests target Name false 0 fragment 0) :
    Nests target Name false 0 (Pattern.standard caseSensitive negated matched pattern escape) 0 := by
  have denial : Nests target Name false 0 (.onlyIf negated (.text " not")) 0 := .onlyIf _ fun _ => .words (by decide)
  have word : Leads false 0 (if caseSensitive then " like " else " ilike ") 0 := by cases caseSensitive <;> decide
  have clause : Nests target Name false 0 (Pattern.escapeClause escape) 0 :=
    .ifSome fun fragment present => (escaped fragment present).behind (by decide)
  exact (((first.append denial).ahead word).append second).append clause

theorem unescaped_nested (lower : Name target.config.lowercaseFunction) (caseSensitive negated : Bool) :
    Nests target Name false 0 (Pattern.unescaped target.config caseSensitive negated matched pattern) 0 := by
  have name : Nests target Name false 0 (.text target.config.lowercaseFunction) 0 := .name lower
  have denial : Nests target Name false 0 (.onlyIf negated (.text " not")) 0 := .onlyIf _ fun _ => .words (by decide)
  unfold Pattern.unescaped
  split
  · exact standardMatch_nested first second true negated nofun
  · exact (((((name.append first.freely.parens).append denial).ahead (by decide : Leads false 0 " like " 0)).append
      name).append second.freely.parens).append (.nil false 0)

end

theorem like_nested {node : Like} (lower : Name target.config.lowercaseFunction)
    (visited : ∀ inner ∈ (Node.predicate (.like node)).visits target.dialect, inner.Nested target Name) :
    (Node.predicate (.like node)).Nested target Name := by
  intro _ _
  obtain ⟨matched, pattern, escape, caseSensitive, negated⟩ := node
  obtain ⟨dialect, config⟩ := target
  cases dialect with
  | generic =>
    have escaped : ∀ fragment ∈ optional ⟨.generic, config⟩ escape,
        Nests ⟨.generic, config⟩ Name false 0 fragment 0 := by
      cases escape with
      | none => nofun
      | some e =>
        rintro _ ⟨⟩
        exact (visited (.expr e) (.tail _ (.tail _ (.head _)))).alone
    exact (standardMatch_nested (visited (.expr matched) (.head _)).alone
      (visited (.expr pattern) (.tail _ (.head _))).alone caseSensitive negated escaped).standard .like
  | spanner =>
    have first := (visited (.expr matched) (.head _)).alone
    have second := (visited (.expr pattern) (.tail _ (.head _))).alone
    have plainly (caseSensitive : Bool) := unescaped_nested first second lower caseSensitive negated
    show Nests ⟨.spanner, config⟩ Name false 0
      (.offer .like (Spanner.like config ⟨matched, pattern, escape, caseSensitive, negated⟩ _ _) _) 0
    cases escape with
    | none =>
      cases caseSensitive with
      | true => exact (plainly true).standard .like
      | false => exact (plainly false).offered .like
    | some escape =>
      refine Nests.offered .like ?_
      split
      · exact .fail false 0 _ 0
      · split
        · exact plainly caseSensitive
        · split
          · exact .fail false 0 _ 0
          · exact unescaped_nested first (.literal _) lower caseSensitive negated

theorem predicate_nested {p : Predicate} (lower : Name target.config.lowercaseFunction)
    (visited : ∀ node ∈ (Node.predicate p).visits target.dialect, node.Nested target Name)
    (deeper : ∀ node ∈ (Node.predicate p).visits target.dialect, ∀ inner ∈ node.visits target.dialect,
      inner.Nested target Name) : (Node.predicate p).Nested target Name := by
  intro scope aliases
  cases p with
  | comparison left op right => exact comparison_nested visited deeper scope aliases
  | like node => exact like_nested lower visited scope aliases
  | inList test values negated =>
    cases values with
    | nil => exact Nests.words (by cases negated <;> decide : Leads false 0 (if negated then "1=1" else "1=0") 0)
    | cons value values =>
      have all : ∀ node ∈ Node.expr test :: (value :: values).map Node.expr, node.Nested target Name := by
        obtain ⟨dialect, config⟩ := target
        cases dialect <;> exact visited
      obtain ⟨tested, listed⟩ := List.forall_mem_cons.mp all
      have word : Leads false 0 (if negated then " not in " else " in ") 0 := by cases negated <;> decide
      exact (tested.alone.ahead word).append (Nests.listed (exprs_nested listed)).parens
  | inSubquery test nested negated =>
    have all : ∀ node ∈ [Node.expr test, .query nested], node.Nested target Name := by
      obtain ⟨dialect, config⟩ := target
      cases dialect <;> exact visited
    have word : Leads false 0 (if negated then " not in " else " in ") 0 := by cases negated <;> decide
    exact ((all _ (.head _)).alone.ahead word).append (subquery_nested (all _ (.tail _ (.head _))))
  | inArray test array =>
    obtain ⟨dialect, config⟩ := target
    cases dialect with
    | generic =>
      have tested := (visited (.expr test) (.head _)).alone
      have listed := (visited (.expr array) (.tail _ (.head _))).alone
      exact Nests.standard .inArray ((tested.ahead (by decide : Leads false 0 "=any" 0)).append listed.freely.parens)
    | spanner =>
      have tested := (visited (.expr test) (.head _)).alone
      have listed := (visited (.expr array) (.tail _ (.head _))).alone
      exact Nests.offered .inArray
        ((tested.ahead (by decide : Leads false 0 " in unnest" 0)).append listed.freely.parens)
  | nullness test negated =>
    have tested : (Node.expr test).Nested target Name := by
      obtain ⟨dialect, config⟩ := target
      cases dialect <;> exact visited _ (.head _)
    have word : Leads false 0 (if negated then " is not null" else " is null") 0 := by cases negated <;> decide
    exact tested.alone.ahead word
  | between test low high negated =>
    have all : ∀ node ∈ [Node.expr test, .expr low, .expr high], node.Nested target Name := by
      obtain ⟨dialect, config⟩ := target
      cases dialect <;> exact visited
    have word : Leads false 0 (if negated then " not between " else " between ") 0 := by cases negated <;> decide
    exact ((((all _ (.head _)).alone.ahead word).append (all _ (.tail _ (.head _))).alone).ahead
      (by decide : Leads false 0 " and " 0)).append (all _ (.tail _ (.tail _ (.head _)))).alone
  | existence nested negated =>
    have rows : (Node.query nested).Nested target Name := by
      obtain ⟨dialect, config⟩ := target
      cases dialect <;> exact visited _ (.head _)
    have denial : Nests target Name false 0 (.onlyIf negated (.text "not ")) 0 := .onlyIf _ fun _ => .words (by decide)
    exact (denial.ahead (by decide : Leads false 0 "exists " 0)).append (subquery_nested rows)
  | junction kind parts =>
    have all : ∀ node ∈ (parts.filter (!·.isEmpty)).map Node.predicate, node.Nested target Name := by
      obtain ⟨dialect, config⟩ := target
      cases dialect <;> exact visited
    have word : Leads false 0 kind.separator 0 := by cases kind <;> decide
    show Nests target Name false 0 (.separated kind.separator (junctionParts target parts)) 0
    rw [junctionParts_eq_map]
    refine .separated word (List.forall_mem_map.mpr fun part mem => ?_)
    have own : Nests target Name false 0 (predicate target part) 0 := (all _ (List.mem_map_of_mem mem)).alone
    split
    · exact own.freely.parens
    · exact own
  | negation inner =>
    have own : (Node.predicate inner).Nested target Name := by
      obtain ⟨dialect, config⟩ := target
      cases dialect <;> exact visited _ (.head _)
    exact own.alone.freely.parens.behind (by decide : Leads false 0 "not " 0)

theorem dmlTarget_nested {table : NamedTable} (clause : Option Clause) (named : ∀ name ∈ table.names, Name name) :
    Nests target Name false 0 (dmlTarget target clause table) 0 := by
  obtain ⟨name, aliasName⟩ := table
  have written : Nests target Name false 0 (.table name) 0 := (Nests.name (named name (.head _))).append (.table name)
  have title : Nests target Name false 0 (.onlyIf (clause != some .insert) (.ifSome aliasName .aliasText)) 0 :=
    .onlyIf _ fun _ => .ifSome fun name mem => aliasText_nested (named name (.tail _ (Option.mem_toList.mpr mem)))
  obtain ⟨dialect, config⟩ := target
  cases dialect with
  | generic => exact written.standard .dmlTarget
  | spanner => exact (written.append title).offered .dmlTarget

theorem returning_nested {columns : List ColumnRef} (named : ∀ name ∈ columns.flatMap ColumnRef.names, Name name) :
    Nests target Name true 0 (returning columns) 0 := by
  refine .onlyIf _ fun _ => .inClause .returning ?_
  refine Nests.behind (.listed (List.forall_mem_map.mpr fun column mem => ?_)) (by decide)
  exact column_nested fun name own => named name (List.mem_flatMap.mpr ⟨column, mem, own⟩)

theorem assignments_nested {items : List Assignment} (named : ∀ name ∈ items.flatMap (·.column.names), Name name)
    (nested : ∀ node ∈ items.map (Node.expr ·.value), node.Nested target Name) :
    Nests target Name false 0 (assignments target items) 0 := by
  refine .listed (List.forall_mem_map.mpr fun item mem => ?_)
  have column : Name item.column.name :=
    named _ (List.mem_flatMap.mpr ⟨item, mem, List.mem_append_right _ (.head _)⟩)
  exact ((Nests.name column).ahead (by decide : Leads false 0 "=" 0)).append (nested _ (List.mem_map_of_mem mem)).alone

theorem insertSource_nested {source : InsertSource} (nested : ∀ node ∈ source.nodes, node.Nested target Name) :
    Nests target Name true 0 (insertSource target source) 0 := by
  cases source with
  | query rows => exact (nested (.query rows) (.head _)).alone
  | values rows =>
    show Nests target Name true 0 (if rows.isEmpty then _ else _) 0
    split
    · exact .words (by decide : Leads true 0 "default values" 0)
    · have word : Leads true 0 "values " 0 := by decide
      refine .inClause .values (Nests.behind (.listed (List.forall_mem_map.mpr fun row mem => ?_)) word)
      exact (Nests.listed (exprs_nested fun node inside =>
        nested node (List.mem_flatMap.mpr ⟨row, mem, inside⟩))).parens

theorem columnList_nested {columns : List String} (named : ∀ name ∈ columns, Name name) :
    Nests target Name true 0 (.parens (.names columns)) 0 :=
  (Nests.names named).freely.parens

theorem conflictClause_nested {conflict : Conflict} (named : ∀ name ∈ conflict.names, Name name)
    (nested : ∀ node ∈ conflict.visits, node.Nested target Name) :
    Nests target Name true 0 (conflictClause target conflict) 0 := by
  obtain ⟨action, constraintName, columns, guard⟩ := conflict
  simp only [Conflict.names, List.forall_mem_append] at named
  obtain ⟨⟨onName, onColumns⟩, onAssignments⟩ := named
  have constraint : Nests target Name true 0 (constraint constraintName columns) 0 := by
    cases constraintName with
    | some name =>
      have word : Leads true 0 " on constraint " 0 := by decide
      exact (Nests.name (onName name (.head _))).freely.behind word
    | none =>
      have gap : Leads true 0 " " 0 := by decide
      exact .onlyIf _ fun _ => (columnList_nested onColumns).behind gap
  have opening := constraint.behind (by decide : Leads true 0 " on conflict" 0)
  cases action with
  | doNothing => exact (opening.ahead (by decide)).inClause .conflict
  | doUpdate items =>
    obtain ⟨values, guarded⟩ := List.forall_mem_append.mp nested
    have assigned := (assignments_nested onAssignments values).freely.behind
      (by decide : Leads true 0 " do update set " 0)
    have restricted := restriction_nested .restriction (by decide : Leads true 0 " where " 0) guarded
    exact (opening.append (assigned.append restricted)).inClause .conflict

theorem insert_nested {change : Insert} (named : ∀ name ∈ (Node.statement (.insert change)).names, Name name)
    (visited : ∀ node ∈ (Node.statement (.insert change)).visits target.dialect, node.Nested target Name) :
    (Node.statement (.insert change)).Nested target Name := by
  intro _ _
  obtain ⟨table, columns, source, conflict, returned⟩ := change
  simp only [Node.names, List.forall_mem_append] at named
  obtain ⟨⟨⟨onTable, onColumns⟩, onConflict⟩, onReturned⟩ := named
  have head : Nests target Name true 0 (dmlTarget target (some .insert) table) 0 := (dmlTarget_nested _ onTable).freely
  have sources : ∀ node ∈ source.nodes, node.Nested target Name := by
    obtain ⟨dialect, config⟩ := target
    cases dialect with
    | generic => exact fun node mem => visited node (List.mem_append_left _ mem)
    | spanner => exact visited
  have rows := insertSource_nested sources
  have back : Nests target Name true 0 (returning returned) 0 := returning_nested onReturned
  have list (before : Nests target Name true 0 (.text " ") 0) : Nests target Name true 0
      (.onlyIf (!columns.isEmpty) (.text " " ++ .parens (.names columns))) 0 :=
    .onlyIf _ fun _ => before.append (columnList_nested onColumns)
  have gap : Nests target Name true 0 (.text " ") 0 := .words (by decide)
  have opening := (((((head.behind (by decide : Leads true 0 "insert into " 0)).append (list gap)).inClause
    .insert).ahead (by decide : Leads true 0 " " 0)).append rows)
  cases conflict with
  | none => exact (opening.append (.nil true 0)).append back
  | some conflict =>
    obtain ⟨dialect, config⟩ := target
    cases dialect with
    | generic =>
      have clause : Nests ⟨.generic, config⟩ Name true 0 (conflictClause ⟨.generic, config⟩ conflict) 0 :=
        conflictClause_nested (fun name mem => onConflict name (List.mem_flatMap.mpr ⟨conflict, .head _, mem⟩))
          fun node mem =>
          visited node (List.mem_append_right _ (List.mem_flatMap.mpr ⟨conflict, .head _, mem⟩))
      exact ((opening.append clause).append back).standard .insertWithConflict
    | spanner =>
      refine Nests.offered .insertWithConflict ?_
      unfold Spanner.insertWithConflict
      split
      · exact .fail true 0 _ 0
      · have words : Leads true 0
            (if conflict.action.isUpdate then "insert or update into " else "insert or ignore into ") 0 := by
          split <;> decide
        have names : Nests ⟨.spanner, config⟩ Name true 0 (.onlyIf (!columns.isEmpty) (.parens (.names columns))) 0 :=
          .onlyIf _ fun _ => columnList_nested onColumns
        exact (((((head.behind words).append names).ahead (by decide : Leads true 0 " " 0)).inClause .insert).append
          rows).append back

/-- A change that a dialect gives a restriction if it has none. -/
theorem changed_nested {head standard columns : Fragment} {construct : Construct} {restriction : Option Predicate}
    (first : Nests target Name true 0 head 0) (last : Nests target Name true 0 columns 0)
    (otherwise : Nests target Name true 0 standard 0) :
    Nests target Name true 0 (.offer construct (Spanner.unrestricted restriction head columns) standard) 0 := by
  unfold Spanner.unrestricted
  split
  · exact otherwise.standard construct
  · exact ((first.ahead (by decide : Leads true 0 " where true" 0)).append last).offered construct

theorem statement_nested {change : Statement} (named : ∀ name ∈ (Node.statement change).names, Name name)
    (visited : ∀ node ∈ (Node.statement change).visits target.dialect, node.Nested target Name) :
    (Node.statement change).Nested target Name := by
  cases change with
  | insert change => exact insert_nested named visited
  | select nested =>
    have own : (Node.query nested).Nested target Name := by
      obtain ⟨dialect, config⟩ := target
      cases dialect <;> exact visited _ (.head _)
    exact fun _ _ => own.alone
  | update change =>
    intro _ _
    obtain ⟨table, items, guard, returned⟩ := change
    simp only [Node.names, List.forall_mem_append] at named
    obtain ⟨⟨onTable, onItems⟩, onReturned⟩ := named
    have all : ∀ node ∈ items.map (Node.expr ·.value) ++ Predicate.visited guard, node.Nested target Name := by
      obtain ⟨dialect, config⟩ := target
      cases dialect <;> exact visited
    obtain ⟨values, restricted⟩ := List.forall_mem_append.mp all
    have head : Nests target Name true 0 (updateClause target table) 0 :=
      ((dmlTarget_nested _ onTable).freely.behind (by decide)).inClause .update
    have assigned : Nests target Name true 0 (setClause target items) 0 :=
      ((assignments_nested onItems values).freely.behind (by decide)).inClause .assignments
    have back : Nests target Name true 0 (returning returned) 0 := returning_nested onReturned
    have opening := head.append assigned
    have standard := (opening.append
      (restriction_nested .restriction (by decide : Leads true 0 " where " 0) restricted)).append back
    obtain ⟨dialect, config⟩ := target
    cases dialect with
    | generic => exact standard.standard .update
    | spanner => exact changed_nested opening back standard
  | delete change =>
    intro _ _
    obtain ⟨table, guard, returned⟩ := change
    simp only [Node.names, List.forall_mem_append] at named
    obtain ⟨onTable, onReturned⟩ := named
    have restricted : ∀ node ∈ Predicate.visited guard, node.Nested target Name := by
      obtain ⟨dialect, config⟩ := target
      cases dialect <;> exact visited
    have head : Nests target Name true 0 (deleteClause target table) 0 :=
      ((dmlTarget_nested _ onTable).freely.behind (by decide)).inClause .delete
    have back : Nests target Name true 0 (returning returned) 0 := returning_nested onReturned
    have standard := (head.append
      (restriction_nested .restriction (by decide : Leads true 0 " where " 0) restricted)).append back
    obtain ⟨dialect, config⟩ := target
    cases dialect with
    | generic => exact standard.standard .delete
    | spanner => exact changed_nested head back standard

/-- Every node nests if the names of the nodes that writing it comes to are admitted. -/
theorem node_nested (node : Node) (texts : ∀ text ∈ target.config.statementTexts, Name text)
    (named : ∀ inner, target.dialect.Visits node inner → ∀ name ∈ inner.names ++ inner.summary, Name name) :
    node.Nested target Name := by
  have lower : Name target.config.lowercaseFunction := texts _ (.head _)
  have double : Name (target.config.typeName .double) := texts _ (.tail _ (.head _))
  induction node using Node.induction with
  | step node ih =>
    have visited (inner : Node) (mem : inner ∈ node.visits target.dialect) : inner.Nested target Name :=
      ih inner (Node.below_of_mem_visits mem) fun deeper path => named deeper (.head mem path)
    have deeper (inner : Node) (mem : inner ∈ node.visits target.dialect) (deeper : Node)
        (inside : deeper ∈ inner.visits target.dialect) : deeper.Nested target Name :=
      ih deeper ((Node.below_of_mem_visits mem).trans (Node.below_of_mem_visits inside)) fun deepest path =>
        named deepest (.head mem (.head inside path))
    have own : ∀ name ∈ node.names, Name name := fun name mem => named node .refl name (List.mem_append_left _ mem)
    cases node with
    | statement change => exact statement_nested own visited
    | query nested => exact query_nested own visited
    | group from_ => exact group_nested visited
    | table from_ => exact table_nested own visited
    | predicate p => exact predicate_nested lower visited deeper
    | expr e => exact expr_nested double (named _ .refl) visited
    | item e => exact item_nested (visited (.expr e) (.head _))

end Render

end PortableSql
