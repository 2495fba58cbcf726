import PortableSql.Session

/-! What a fragment adds to a statement: its text and its failure, part by part. -/

set_option autoImplicit false

namespace PortableSql

variable {config : Config}

theorem Mark.sqlText_append (first second : List Mark) :
    sqlText config (first ++ second) = sqlText config first ++ sqlText config second := by
  simp [sqlText, List.map_append, String.join_append]

@[simp] theorem Mark.sql_within (clause : Option Clause) (mark : Mark) :
    (mark.within clause).sql config = mark.sql config :=
  congrFun (comp_within (sql config) (fun _ _ _ _ => rfl) clause) mark

/-- A choice of marks that leaves offers out does not see clauses. -/
theorem Mark.filter_within {chosen : Mark → Bool}
    (blind : ∀ construct clause outcome, chosen (.offer construct clause outcome) = false)
    (clause : Option Clause) (marks : List Mark) :
    (marks.map (within clause)).filter chosen = marks.filter chosen := by
  induction marks with
  | nil => rfl
  | cons mark marks ih =>
    cases mark with
    | offer construct around outcome =>
      cases around <;>
        simpa only [List.map_cons, within, List.filter_cons, blind, Bool.false_eq_true, if_false] using ih
    | text | literal | placeholder | table | lock =>
      simp only [List.map_cons, within, List.filter_cons, ih]

/-- A view of marks that passes over the marks left out does not see that they are. -/
theorem Mark.filterMap_filter {α : Type} {chosen : Mark → Bool} {view : Mark → Option α}
    (silent : ∀ mark, chosen mark = false → view mark = none) (marks : List Mark) :
    (marks.filter chosen).filterMap view = marks.filterMap view := by
  rw [List.filterMap_filter]
  refine congrArg (List.filterMap · marks) (funext fun mark => ?_)
  split
  · rfl
  · next out => exact (silent mark (eq_false_of_ne_true out)).symm

theorem Mark.sqlText_within (clause : Option Clause) (marks : List Mark) :
    sqlText config (marks.map (Mark.within clause)) = sqlText config marks := by
  simp [sqlText, Function.comp_def]

namespace Fragment

def sql (config : Config) (fragment : Fragment) : String :=
  Mark.sqlText config fragment.marks

@[simp] theorem failure_nil : nil.failure = none := by simp [nil]

@[simp] theorem failure_text (words : String) : (text words).failure = none := by
  simp [text, mark]

@[simp] theorem failure_literal (content : String) : (literal content).failure = none := by
  simp [literal, mark]

@[simp] theorem failure_mark (note : Mark) : (mark note).failure = none := by
  simp [mark]

@[simp] theorem failure_inClause (clause : Clause) (fragment : Fragment) :
    (inClause clause fragment).failure = fragment.failure := by
  simp [inClause]

theorem failure_append_eq_none {first second : Fragment} :
    (first ++ second).failure = none ↔ first.failure = none ∧ second.failure = none := by
  rw [failure_append, Option.or_eq_none_iff]

@[simp] theorem failure_parens (fragment : Fragment) : (parens fragment).failure = fragment.failure := by
  simp [parens, failure_append]

theorem separated_cons_cons (separator : String) (first second : Fragment) (rest : List Fragment) :
    separated separator (first :: second :: rest) =
      first ++ text separator ++ separated separator (second :: rest) := rfl

theorem failure_separated (separator : String) (fragments : List Fragment) :
    (separated separator fragments).failure = fragments.findSome? (·.failure) := by
  induction fragments with
  | nil => rfl
  | cons first rest ih =>
    cases rest with
    | nil => cases failed : first.failure <;> simp [separated, failed]
    | cons second rest =>
      have tail : (text separator ++ separated separator (second :: rest)).failure =
          (second :: rest).findSome? (·.failure) := by
        rw [failure_append, failure_text, ih]
        rfl
      rw [separated_cons_cons, append_assoc, failure_append, tail]
      cases failed : first.failure <;> simp [failed]

@[simp] theorem sql_nil : nil.sql config = "" := rfl

@[simp] theorem sql_text (words : String) : (text words).sql config = words := by
  simp [sql, text, mark, Mark.sqlText, Mark.sql]

@[simp] theorem sql_literal (content : String) : (literal content).sql config = config.quote content := by
  simp [sql, literal, mark, Mark.sqlText, Mark.sql]

@[simp] theorem sql_placeholder (parameter : Parameter) : (placeholder parameter).sql config = "?" := by
  simp [sql, placeholder, mark, Mark.sqlText, Mark.sql]

@[simp] theorem sql_offer (construct : Construct) (clause : Option Clause) (outcome : Outcome) :
    (mark (.offer construct clause outcome)).sql config = "" := by
  simp [sql, mark, Mark.sqlText, Mark.sql]

theorem sql_append {first second : Fragment} (whole : first.failure = none) :
    (first ++ second).sql config = first.sql config ++ second.sql config := by
  simp [sql, marks_append, whole, Mark.sqlText_append]

@[simp] theorem sql_inClause (clause : Clause) (fragment : Fragment) :
    (inClause clause fragment).sql config = fragment.sql config :=
  Mark.sqlText_within _ _

theorem sql_parens {fragment : Fragment} (whole : fragment.failure = none) :
    (parens fragment).sql config = "(" ++ fragment.sql config ++ ")" := by
  simp [parens, sql_append, failure_append, whole]

theorem sql_offer_some (construct : Construct) (answer standard : Fragment) :
    (offer construct (some answer) standard).sql config = answer.sql config := by
  simp [offer, sql_append]

@[simp] theorem failure_offer (construct : Construct) (answer : Option Fragment)
    (standard : Fragment) :
    (offer construct answer standard).failure = (answer.getD standard).failure := by
  simp [offer, failure_append]

theorem rendering_eq_ok {fragment : Fragment} {rendering : Rendering} :
    fragment.rendering config = .ok rendering ↔
      fragment.failure = none ∧ .ofMarks config fragment.marks = rendering := by
  obtain ⟨marks, failure⟩ := fragment
  cases failure with
  | none => exact ⟨fun same => ⟨rfl, Except.ok.inj same⟩, fun ⟨_, same⟩ => congrArg Except.ok same⟩
  | some cause => exact iff_of_false nofun nofun

/-- Whether a fragment adds a text and does not fail. -/
structure Adds (config : Config) (fragment : Fragment) (text : String) : Prop where
  whole : fragment.failure = none
  sql : fragment.sql config = text

namespace Adds

variable {fragment first second : Fragment} {words words' : String}

theorem nil : Adds config .nil "" := ⟨failure_nil, sql_nil⟩

theorem text (words : String) : Adds config (.text words) words := ⟨failure_text words, sql_text words⟩

theorem congr (adds : Adds config fragment words) (same : words = words') :
    Adds config fragment words' :=
  same ▸ adds

theorem append (head : Adds config first words) (rest : Adds config second words') :
    Adds config (first ++ second) (words ++ words') where
  whole := failure_append_eq_none.mpr ⟨head.whole, rest.whole⟩
  sql := by rw [sql_append head.whole, head.sql, rest.sql]

theorem inClause (adds : Adds config fragment words) (clause : Clause) :
    Adds config (.inClause clause fragment) words where
  whole := by rw [failure_inClause, adds.whole]
  sql := by rw [sql_inClause, adds.sql]

theorem parens (adds : Adds config fragment words) : Adds config (.parens fragment) ("(" ++ words ++ ")") :=
  ((text "(").append adds).append (text ")")

theorem offered (construct : Construct) {answer : Option Fragment} {standard : Fragment}
    (adds : Adds config (answer.getD standard) words) : Adds config (.offer construct answer standard) words where
  whole := by rw [failure_offer, adds.whole]
  sql := by rw [offer, sql_append (failure_mark _), sql_offer, adds.sql, String.empty_append]

theorem onlyIf (adds : Adds config fragment words) (condition : Bool) :
    Adds config (.onlyIf condition fragment) (if condition then words else "") := by
  cases condition with
  | true => exact adds
  | false => exact nil

theorem separated {separator : String} {fragments : List Fragment}
    (whole : ∀ fragment ∈ fragments, fragment.failure = none) :
    Adds config (.separated separator fragments)
      (separator.intercalate (fragments.map (Fragment.sql config))) := by
  induction fragments with
  | nil => exact nil
  | cons first rest ih =>
    have head : Adds config first (first.sql config) := ⟨whole first List.mem_cons_self, rfl⟩
    cases rest with
    | nil => simpa [Fragment.separated] using head
    | cons second rest =>
      have tail := ih fun fragment mem => whole fragment (List.mem_cons_of_mem _ mem)
      simpa [separated_cons_cons] using (head.append (text separator)).append tail

end Adds

end Fragment

theorem Render.exprs_eq_map (target : Target) (items : List Expr) :
    exprs target items = items.map (expr target) := by
  induction items with
  | nil => rfl
  | cons item items ih => simp only [exprs, ih, List.map_cons, expr]

namespace Session

def textOf (session : Session) (piece : Piece) : String :=
  session.addedText (session.write piece).1

theorem textOf_eq (session : Session) (piece : Piece) :
    session.textOf piece =
      (piece.fragment session.target session.clause?).sql session.target.config := by
  simp [textOf, addedText, write, add, Mark.sqlText_within, Fragment.sql]

theorem write_failure (session : Session) (piece : Piece) :
    (session.write piece).2 = (piece.fragment session.target session.clause?).failure := rfl

end Session

end PortableSql
