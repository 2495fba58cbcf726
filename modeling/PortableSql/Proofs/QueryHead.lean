import PortableSql.Proofs.Added
import PortableSql.Proofs.Visit

/-! The heads of the queries that Spanner writes.

A select clause begins with an offer to the dialect, so that every query written as such has its place among the
marks. There the select clause of a query of the statement follows, in the scope of the place where the query
stands, and a correlated scope goes with the opening of an array right before it (`Heads`). What is put together
of fragments with such heads has such heads, as a query never follows directly on another fragment
(`Fragment.Headed`).
-/

set_option autoImplicit false

namespace PortableSql

/-- The scope of the queries right below a node: a derived table has an array of rows if it is lateral, and names for
their columns. -/
def Node.scope : Node → Scope
  | .table (.derived from_) => ⟨from_.lateral, from_.columnNames⟩
  | .table (.named _) | .statement _ | .query _ | .group _ | .predicate _ | .expr _ | .item _ => {}

/-- Whether a query stands somewhere in a node, at a place with a scope. -/
def Node.Places (root : Node) (nested : Query) (scope : Scope) : Prop :=
  ∃ outer, root.Within outer ∧ .query nested ∈ outer.children ∧ outer.scope = scope

namespace Mark

/-- What Spanner writes before the query of a lateral table. -/
def unnesting : Mark := .text "unnest(array("

def opensQuery : Mark → Bool
  | .offer .selectClause _ _ => true
  | _ => false

/-- Whether a text begins with the select clause of a query in a node, in a scope that is correlated if the opening
of an array stands right before. -/
def Heads (config : Config) (root : Node) (previous : Option Mark) (text : String) : Prop :=
  ∃ nested scope rest, root.Places nested scope ∧ (scope.correlated = true ↔ previous = some unnesting) ∧
    text = (Render.selectClause ⟨.spanner, config⟩ nested.distinct scope
      (Render.selectionList ⟨.spanner, config⟩ nested.selections)).sql config ++ rest

/-- Whether all select clauses in marks are heads of queries in a node, with a mark before the first of the marks. -/
def Headed (config : Config) (root : Node) : Option Mark → List Mark → Prop
  | _, [] => True
  | previous, mark :: rest =>
    (mark.opensQuery = true → Heads config root previous (sqlText config rest)) ∧ Headed config root (some mark) rest

variable {config : Config} {root : Node}

theorem Heads.append {previous : Option Mark} {text : String} (head : Heads config root previous text)
    (more : String) : Heads config root previous (text ++ more) := by
  obtain ⟨nested, scope, rest, places, goes, rfl⟩ := head
  exact ⟨nested, scope, rest ++ more, places, goes, String.append_assoc⟩

theorem Headed.append {previous : Option Mark} {first second : List Mark}
    (left : Headed config root previous first) (right : ∀ before, Headed config root before second) :
    Headed config root previous (first ++ second) := by
  induction first generalizing previous with
  | nil => exact right previous
  | cons mark first ih =>
    refine ⟨fun opens => ?_, ih left.2⟩
    have head := (left.1 opens).append (sqlText config second)
    rwa [← sqlText_append] at head

/-- A clause around marks says nothing about heads. -/
theorem Headed.within {previous previous' : Option Mark} {marks : List Mark}
    (headed : Headed config root previous marks) (same : previous = some unnesting ↔ previous' = some unnesting)
    (clause : Option Clause) : Headed config root previous' (marks.map (Mark.within clause)) := by
  induction marks generalizing previous previous' with
  | nil => trivial
  | cons mark marks ih =>
    have opens : (mark.within clause).opensQuery = mark.opensQuery := by
      cases mark with
      | offer construct around outcome => cases construct <;> cases around <;> rfl
      | text | literal | placeholder | table | lock => rfl
    have kept : some mark = some unnesting ↔ some (mark.within clause) = some unnesting := by
      cases mark with
      | offer construct around outcome => cases around <;> exact ⟨nofun, nofun⟩
      | text | literal | placeholder | table | lock => rfl
    refine ⟨fun opened => ?_, ih headed.2 kept⟩
    obtain ⟨nested, scope, rest, places, goes, written⟩ := headed.1 (opens ▸ opened)
    exact ⟨nested, scope, rest, places, goes.trans same, by rw [sqlText_within, written]⟩

/-- In marks with heads, what follows the beginning of a select clause is a head. -/
theorem Headed.of_append {previous : Option Mark} {marks before after : List Mark} {clause : Option Clause}
    {outcome : Outcome} (headed : Headed config root previous marks)
    (split : marks = before ++ .offer .selectClause clause outcome :: after) :
    Heads config root (before.getLast?.or previous) (sqlText config after) := by
  subst split
  induction before generalizing previous with
  | nil => exact headed.1 rfl
  | cons mark before ih =>
    have tail := ih headed.2
    rwa [List.getLast?_cons, Option.some_or, ← Option.or_some]

end Mark

/-- Whether all select clauses of a fragment are heads of queries in a node, whatever stands before the fragment. -/
def Fragment.Headed (config : Config) (root : Node) (fragment : Fragment) : Prop :=
  ∀ previous, Mark.Headed config root previous fragment.marks

namespace Fragment.Headed

variable {config : Config} {root : Node} {fragment first second : Fragment}

theorem nil : Fragment.Headed config root .nil := fun _ => trivial

theorem fail (cause : Error) : Fragment.Headed config root (.fail cause) := fun _ => trivial

theorem mark {mark : Mark} (plain : mark.opensQuery = false) : Fragment.Headed config root (.mark mark) :=
  fun _ => ⟨fun opens => absurd opens (by rw [plain]; exact Bool.false_ne_true), trivial⟩

theorem text (words : String) : Fragment.Headed config root (.text words) := mark rfl

theorem append (left : Fragment.Headed config root first) (right : Fragment.Headed config root second) :
    Fragment.Headed config root (first ++ second) := by
  intro previous
  rw [marks_append]
  split
  · rw [List.append_nil]
    exact left previous
  · exact (left previous).append right

theorem behind (headed : Fragment.Headed config root fragment) (words : String) :
    Fragment.Headed config root (.text words ++ fragment) :=
  (text words).append headed

theorem ahead (headed : Fragment.Headed config root fragment) (words : String) :
    Fragment.Headed config root (fragment ++ .text words) :=
  headed.append (text words)

theorem parens (headed : Fragment.Headed config root fragment) : Fragment.Headed config root (.parens fragment) :=
  (headed.behind "(").ahead ")"

theorem inClause (clause : Clause) (headed : Fragment.Headed config root fragment) :
    Fragment.Headed config root (.inClause clause fragment) :=
  fun previous => (headed previous).within Iff.rfl clause

theorem onlyIf (condition : Bool) (headed : Fragment.Headed config root fragment) :
    Fragment.Headed config root (.onlyIf condition fragment) := by
  cases condition with
  | true => exact headed
  | false => exact nil

theorem ifSome {α : Type} {value : Option α} {render : α → Fragment}
    (headed : ∀ a ∈ value, Fragment.Headed config root (render a)) :
    Fragment.Headed config root (.ifSome value render) := by
  cases value with
  | none => exact nil
  | some a => exact headed a rfl

theorem separated (separator : String) {fragments : List Fragment}
    (headed : ∀ fragment ∈ fragments, Fragment.Headed config root fragment) :
    Fragment.Headed config root (.separated separator fragments) := by
  induction fragments with
  | nil => exact nil
  | cons first rest ih =>
    obtain ⟨own, others⟩ := List.forall_mem_cons.mp headed
    cases rest with
    | nil => exact own
    | cons second rest => exact (own.ahead separator).append (ih others)

/-- A clause that begins with a keyword and has a list, if there is one. -/
theorem clause (keyword : String) (clause : Clause) {fragments : List Fragment}
    (headed : ∀ fragment ∈ fragments, Fragment.Headed config root fragment) :
    Fragment.Headed config root
      (.onlyIf (!fragments.isEmpty) (.inClause clause (.text keyword ++ .separated "," fragments))) :=
  (((separated "," headed).behind keyword).inClause clause).onlyIf _

section

variable (construct : Construct) (other : construct ≠ .selectClause)

include other

theorem offer (outcome : Outcome) : Fragment.Headed config root (.mark (.offer construct none outcome)) := by
  apply mark
  cases construct with
  | selectClause => contradiction
  | _ => rfl

theorem offered {answer standard : Fragment} (headed : Fragment.Headed config root answer) :
    Fragment.Headed config root (.offer construct (some answer) standard) :=
  (offer construct other _).append headed

theorem standard (headed : Fragment.Headed config root fragment) :
    Fragment.Headed config root (.offer construct none fragment) :=
  (offer construct other _).append headed

end

/-- A fragment with heads that goes with the text before it. -/
theorem opened {words : String} (headed : Mark.Headed config root (some (.text words)) fragment.marks) :
    Fragment.Headed config root (.text words ++ fragment) := by
  intro previous
  rw [marks_append]
  exact ⟨nofun, headed⟩

end Fragment.Headed

end PortableSql
