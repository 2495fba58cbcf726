import PortableSql.Rendering

/-! Writers: a statement as far as it is written.

A writer holds the text, the clauses that are open, and what goes with the text. An action goes on with a
writer: it may look at all that the writer holds, and what it wrote before it failed stays. A hook is an
action of a dialect that writes a construct, or leaves it to be written in the standard way.
-/

set_option autoImplicit false

namespace PortableSql

structure Writer where
  text : String := ""
  -- The open clauses, the innermost first.
  clauses : List Clause := []
  bindings : List Binding := []
  tables : NameSet := .empty
  lock : LockStrategy := .none

namespace Writer

def clause? (writer : Writer) : Option Clause :=
  writer.clauses.head?

def enter (writer : Writer) (clause : Clause) : Writer :=
  { writer with clauses := clause :: writer.clauses }

def leave (writer : Writer) : Writer :=
  { writer with clauses := writer.clauses.tail }

def finish (writer : Writer) : Rendering where
  sql := writer.text
  bindings := writer.bindings
  tables := writer.tables
  lock := writer.lock

/-- The text that a later state of a writer has more than an earlier one. -/
def addedText (before after : Writer) : String :=
  String.ofList (after.text.toList.drop before.text.toList.length)

end Writer

/-- What goes on with a writer, and may fail half way. -/
abbrev Write (α : Type) :=
  ExceptT Error (StateM Writer) α

abbrev Action :=
  Write Unit

/-- What a hook did with the construct that it was given. -/
inductive Emission where
  -- Nothing; it is to be written in the standard way.
  | standard
  | written
  deriving DecidableEq, Repr

namespace Write

def append (words : String) : Action :=
  modify fun writer => { writer with text := writer.text ++ words }

/-- Note that a table is used. -/
def register (table : String) : Action :=
  modify fun writer => { writer with tables := writer.tables.add table }

/-- Write a placeholder, the parameter of which gets the next number. -/
def addParameter (parameter : Parameter) : Action := do
  modify fun writer =>
    { writer with
      bindings := writer.bindings ++ [⟨writer.bindings.length + 1, parameter.name, parameter.sqlType⟩] }
  append "?"

/-- Choose how locks are taken, whatever was chosen before. -/
def chooseLock (strategy : LockStrategy) : Action :=
  modify fun writer => { writer with lock := strategy }

def currentClause : Write (Option Clause) := do
  return (← get).clause?

/-- Act in a clause, which is closed whatever comes of it. -/
def inClause (clause : Clause) (action : Action) : Action := fun writer =>
  let (result, after) := action (writer.enter clause)
  (result, after.leave)

def onlyIf (condition : Bool) (action : Action) : Action :=
  if condition then action else pure ()

def ifSome {α : Type} (value : Option α) (act : α → Action) : Action :=
  match value with
  | some value => act value
  | none => pure ()

def parens (action : Action) : Action := do
  append "("
  action
  append ")"

def separated (separator : String) : List Action → Action
  | [] => pure ()
  | [only] => only
  | first :: rest => do
    first
    append separator
    separated separator rest

def names (names : List String) : Action :=
  append (String.intercalate "," names)

/-- A construct as the hook writes it or, if the hook leaves it, in the standard way. -/
def offer (hook : Write Emission) (standard : Action) : Action := do
  match ← hook with
  | .written => return ()
  | .standard => standard

end Write

end PortableSql
