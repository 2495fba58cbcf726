import PortableSql.Fragment

/-! Renderings: what the marks of a statement amount to.

The text of a statement is the text of its marks in order, and every other part of a rendering is
read off the same marks: placeholders are numbered in the order of the text, tables form a set, and of
several choices of a lock strategy the last one stands.
-/

set_option autoImplicit false

namespace PortableSql

structure Binding where
  position : Nat
  name : Option String
  sqlType : SqlType
  deriving DecidableEq, Repr

inductive TraceEntry where
  | offer (construct : Construct) (clause : Option Clause) (outcome : Outcome)
  | lock (answer : Option LockStrategy)
  deriving DecidableEq, Repr

namespace Mark

def sql (config : Config) : Mark → String
  | .text words => words
  | .literal content => config.quote content
  | .placeholder _ => "?"
  | .table _ | .lock _ _ | .offer _ _ _ => ""

def parameter? : Mark → Option Parameter
  | .placeholder parameter => some parameter
  | _ => none

def table? : Mark → Option String
  | .table name => some name
  | _ => none

def lockStrategy? : Mark → Option LockStrategy
  | .lock _ chosen => some chosen
  | _ => none

def traceEntry? : Mark → Option TraceEntry
  | .offer construct clause outcome => some (.offer construct clause outcome)
  | .lock answer _ => some (.lock answer)
  | _ => none

def sqlText (config : Config) (marks : List Mark) : String :=
  String.join (marks.map (sql config))

def parameters (marks : List Mark) : List Parameter :=
  marks.filterMap parameter?

def bindings (marks : List Mark) : List Binding :=
  (parameters marks).zipIdx.map fun (parameter, index) =>
    ⟨index + 1, parameter.name, parameter.sqlType⟩

def tables (marks : List Mark) : NameSet :=
  (marks.filterMap table?).foldl NameSet.add .empty

/-- The last choice of a lock strategy. -/
def lockStrategy (marks : List Mark) : LockStrategy :=
  (marks.filterMap lockStrategy?).getLast?.getD .none

/-- The offers in the order in which they began. -/
def trace (marks : List Mark) : List TraceEntry :=
  marks.filterMap traceEntry?

end Mark

structure Rendering where
  sql : String
  bindings : List Binding
  -- The physical tables that the statement reads or writes.
  tables : NameSet
  lock : LockStrategy

def Rendering.ofMarks (config : Config) (marks : List Mark) : Rendering where
  sql := Mark.sqlText config marks
  bindings := Mark.bindings marks
  tables := Mark.tables marks
  lock := Mark.lockStrategy marks

def Fragment.rendering (config : Config) (fragment : Fragment) : Except Error Rendering :=
  match fragment.failure with
  | some cause => .error cause
  | none => .ok (.ofMarks config fragment.marks)

end PortableSql
