import PortableSql.Syntax.Operator
import PortableSql.Syntax.Value

/-! Expressions, predicates and queries, which contain one another.

A subquery stands in an expression under a quantifier, in a predicate as a set of rows, and in a from
item as a derived table. A junction without atoms is empty: it restricts nothing, and neither does
its negation.
-/

set_option autoImplicit false

namespace PortableSql

mutual

inductive Expr where
  | star
  | literal (value : Value)
  | column (column : ColumnRef)
  | parameter (parameter : Parameter)
  | arithmetic (left : Expr) (op : ArithmeticOp) (right : Expr)
  | function (call : FunctionCall)
  | window (call : FunctionCall) (partitionBy : List Expr) (orderBy : List SortItem)
  -- A row value.
  | tuple (items : List Expr)
  | subquery (quantifier : Quantifier) (query : Query)
  | summarization (kind : SummarizationKind) (groupings : List Expr)

structure FunctionCall where
  name : String
  args : List Expr
  returnType : SqlType

structure SortItem where
  expr : Expr
  descending : Bool
  nulls : Option NullPrecedence

inductive Predicate where
  | comparison (left : Expr) (op : ComparisonOp) (right : Expr)
  | inList (test : Expr) (values : List Expr) (negated : Bool)
  | inSubquery (test : Expr) (query : Query) (negated : Bool)
  | inArray (test array : Expr)
  | like (like : Like)
  | nullness (expr : Expr) (negated : Bool)
  | between (expr low high : Expr) (negated : Bool)
  | existence (query : Query) (negated : Bool)
  | junction (kind : JunctionKind) (parts : List Predicate)
  | negation (inner : Predicate)

structure Like where
  expr : Expr
  pattern : Expr
  escape : Option Expr
  caseSensitive : Bool
  negated : Bool

structure Selection where
  expr : Expr
  aliasName : Option String

/-- A query: its selections, where its rows come from, and what is done to them, in the order it is
written. -/
structure Query where
  distinct : Bool
  selections : List Selection
  sources : List TableGroup
  restriction : Option Predicate
  groupBy : List Expr
  having : Option Predicate
  orderBy : List SortItem
  offset : Option Expr
  fetch : Option Expr
  lock : Option LockOptions

inductive DerivedSource where
  | query (query : Query)
  | function (call : FunctionCall)

structure DerivedTable where
  source : DerivedSource
  aliasName : String
  columnNames : List String
  -- Whether it may use columns of the from items before it.
  lateral : Bool

inductive TableRef where
  | named (table : NamedTable)
  | derived (table : DerivedTable)

structure Join where
  kind : JoinKind
  table : TableRef
  on : Option Predicate

structure TableGroup where
  primary : TableRef
  joins : List Join

end

def Query.empty : Query where
  distinct := false
  selections := []
  sources := []
  restriction := none
  groupBy := []
  having := none
  orderBy := []
  offset := none
  fetch := none
  lock := none

instance : Inhabited Expr := ⟨.star⟩
instance : Inhabited Query := ⟨.empty⟩
instance : Inhabited Predicate := ⟨.junction .and []⟩

def Expr.isStar : Expr → Bool
  | .star => true
  | _ => false

def Expr.literal? : Expr → Option Value
  | .literal value => some value
  | _ => none

def Expr.string? : Expr → Option String
  | .literal (.string text) => some text
  | _ => none

mutual

/-- The type an expression is known to have; `other` where nothing is known. -/
def Expr.sqlType : Expr → SqlType
  | .literal value => value.sqlType
  | .column column => column.sqlType
  | .parameter parameter => parameter.sqlType
  | .arithmetic left _ right => .ofArithmetic left.sqlType right.sqlType
  | .function call => call.returnType
  | .window call _ _ => call.returnType
  | .subquery .one query => query.sqlType
  | .subquery _ _ | .star | .tuple _ | .summarization _ _ => .other

def Query.sqlType : Query → SqlType
  | ⟨_, selections, _, _, _, _, _, _, _, _⟩ => Selection.firstType selections

def Selection.firstType : List Selection → SqlType
  | [] => .other
  | ⟨expr, _⟩ :: _ => expr.sqlType

end

/-- Whether an operation is a portable division whose operands ask for integer division. -/
def ArithmeticOp.isIntegerDivision (left : Expr) (op : ArithmeticOp) (right : Expr) : Bool :=
  op == .dividePortable && left.sqlType.isIntegral && right.sqlType.isIntegral

mutual

/-- Whether a predicate has no atom, at any depth of junctions and negations. -/
def Predicate.isEmpty : Predicate → Bool
  | .junction _ parts => Predicate.allEmpty parts
  | .negation inner => inner.isEmpty
  | _ => false

def Predicate.allEmpty : List Predicate → Bool
  | [] => true
  | part :: parts => part.isEmpty && Predicate.allEmpty parts

end

/-- Whether a predicate, brackets apart, is a junction of several parts. -/
def Predicate.isSeveral : Predicate → Bool
  | .junction _ (_ :: _ :: _) => true
  | _ => false

/-- A predicate that restricts something. -/
def Predicate.effective? : Option Predicate → Option Predicate
  | none => none
  | some predicate => if predicate.isEmpty then none else some predicate

def Predicate.restricts (restriction : Option Predicate) : Bool :=
  (Predicate.effective? restriction).isSome

def TableRef.alias? : TableRef → Option String
  | .named table => table.aliasName
  | .derived table => some table.aliasName

theorem Predicate.allEmpty_eq_all (parts : List Predicate) :
    Predicate.allEmpty parts = parts.all Predicate.isEmpty := by
  induction parts with
  | nil => rfl
  | cons part parts ih => simp [Predicate.allEmpty, ih]

end PortableSql
