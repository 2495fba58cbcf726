import PortableSql.Clause
import PortableSql.Config
import PortableSql.Syntax.Value

/-! Fragments: what rendering a node adds to a statement, as a value.

A fragment is a list of marks and, if rendering stopped early, the cause. A mark is a piece of text,
a literal, a placeholder, or a note that goes with the text without being part of it. Appending stops
at the first failure, and what was marked before it stays. With that, fragments form a monoid; text,
parameters, tables, lock strategy and offers are views, each of which turns appending into its own
operation.
-/

set_option autoImplicit false

namespace PortableSql

inductive Construct where
  | offsetFetch
  | comparison
  | rowComparison
  | partitionItem
  | selectClause
  | derivedTable
  | derivedAlias
  | queryPart
  | dmlTarget
  | delete
  | update
  | insertWithConflict
  | inArray
  | like
  | arithmetic
  deriving DecidableEq, Repr

/-- What came of offering a construct to a dialect. -/
inductive Outcome where
  | standard
  -- The dialect rendered it.
  | rendered
  -- The dialect refused it, or failed in rendering it.
  | failed
  deriving DecidableEq, Repr

/-- A step of rendering. -/
inductive Mark where
  | text (text : String)
  -- A string literal, quoted in the style of the configuration.
  | literal (content : String)
  | placeholder (parameter : Parameter)
  -- A table that the statement reads or writes.
  | table (name : String)
  -- A choice of how locks are taken, and the dialect's answer to the question.
  | lock (answer : Option LockStrategy) (chosen : LockStrategy)
  -- A construct was offered to the dialect, in a clause of the fragment or in the one around it.
  | offer (construct : Construct) (clause : Option Clause) (outcome : Outcome)
  deriving DecidableEq, Repr

/-- Put an offer made outside all clauses into a clause. -/
def Mark.within (clause : Option Clause) : Mark → Mark
  | .offer construct none outcome => .offer construct clause outcome
  | mark => mark

/-- A view of marks in which the clause of an offer is of no matter. -/
theorem Mark.comp_within {α : Type} (view : Mark → α)
    (blind : ∀ construct clause other outcome,
      view (.offer construct clause outcome) = view (.offer construct other outcome))
    (clause : Option Clause) : view ∘ within clause = view := by
  funext mark
  cases mark with
  | offer construct around outcome => cases around <;> exact blind ..
  | text | literal | placeholder | table | lock => rfl

/-- What rendering adds to a statement. -/
structure Fragment where
  marks : List Mark
  failure : Option Error

namespace Fragment

def nil : Fragment := ⟨[], none⟩

/-- One fragment after another; nothing follows a failure. -/
def append (first second : Fragment) : Fragment :=
  match first.failure with
  | some _ => first
  | none => ⟨first.marks ++ second.marks, second.failure⟩

instance : Append Fragment := ⟨append⟩

instance : Inhabited Fragment := ⟨nil⟩

def mark (mark : Mark) : Fragment := ⟨[mark], none⟩

def text (text : String) : Fragment := mark (.text text)

def literal (content : String) : Fragment := mark (.literal content)

def placeholder (parameter : Parameter) : Fragment := mark (.placeholder parameter)

/-- The name of a table, which the statement then is known to use. -/
def table (name : String) : Fragment := ⟨[.text name, .table name], none⟩

def fail (cause : Error) : Fragment := ⟨[], some cause⟩

def onlyIf (condition : Bool) (fragment : Fragment) : Fragment :=
  if condition then fragment else nil

def ifSome {α : Type} (value : Option α) (render : α → Fragment) : Fragment :=
  match value with
  | some value => render value
  | none => nil

def parens (fragment : Fragment) : Fragment :=
  text "(" ++ fragment ++ text ")"

def separated (separator : String) : List Fragment → Fragment
  | [] => nil
  | [only] => only
  | first :: rest => first ++ text separator ++ separated separator rest

def names (names : List String) : Fragment :=
  text (String.intercalate "," names)

def inClause (clause : Clause) (fragment : Fragment) : Fragment :=
  ⟨fragment.marks.map (Mark.within clause), fragment.failure⟩

def outcome : Option Fragment → Outcome
  | none => .standard
  | some fragment => if fragment.failure.isSome then .failed else .rendered

/-- A construct as the dialect renders it or, without an answer, in the standard way. -/
def offer (construct : Construct) (answer : Option Fragment) (standard : Fragment) : Fragment :=
  mark (.offer construct none (outcome answer)) ++ answer.getD standard

theorem nil_append (fragment : Fragment) : nil ++ fragment = fragment := rfl

theorem append_nil (fragment : Fragment) : fragment ++ nil = fragment := by
  obtain ⟨marks, failure⟩ := fragment
  cases failure with
  | none => exact congrArg (Fragment.mk · none) (List.append_nil marks)
  | some cause => rfl

theorem append_assoc (first second third : Fragment) :
    first ++ second ++ third = first ++ (second ++ third) := by
  obtain ⟨marks₁, failure₁⟩ := first
  obtain ⟨marks₂, failure₂⟩ := second
  cases failure₁ with
  | some cause => rfl
  | none =>
    cases failure₂ with
    | some cause => rfl
    | none => exact congrArg (Fragment.mk · third.failure) (List.append_assoc marks₁ marks₂ third.marks)

theorem marks_append (first second : Fragment) :
    (first ++ second).marks = first.marks ++ if first.failure.isSome then [] else second.marks := by
  obtain ⟨marks, failure⟩ := first
  cases failure with
  | none => rfl
  | some cause => exact (List.append_nil marks).symm

theorem failure_append (first second : Fragment) :
    (first ++ second).failure = first.failure.or second.failure := by
  obtain ⟨marks, failure⟩ := first
  cases failure <;> rfl

theorem fail_append (cause : Error) (fragment : Fragment) :
    fail cause ++ fragment = fail cause := rfl

theorem inClause_append (clause : Clause) (first second : Fragment) :
    inClause clause (first ++ second) = inClause clause first ++ inClause clause second := by
  obtain ⟨marks, failure⟩ := first
  cases failure with
  | none => exact congrArg (Fragment.mk · second.failure) (List.map_append ..)
  | some cause => rfl

end Fragment

end PortableSql
