/-! The closed vocabularies of a statement: operators, quantifiers, joins and locks.

The laws of comparison operators say how an operator changes when its operands change places, when
the comparison is denied, and when equality is taken from an ordering or added to it.
-/

set_option autoImplicit false

namespace PortableSql

inductive ComparisonOp where
  | eq
  | ne
  | lt
  | lte
  | gt
  | gte
  | distinctFrom
  | notDistinctFrom
  deriving DecidableEq, Repr

namespace ComparisonOp

def text : ComparisonOp → String
  | .eq => "="
  | .ne => "<>"
  | .lt => "<"
  | .lte => "<="
  | .gt => ">"
  | .gte => ">="
  | .distinctFrom => "is distinct from"
  | .notDistinctFrom => "is not distinct from"

/-- The operator between two operands; the spellings in words are set apart by blanks. -/
def spacedText : ComparisonOp → String
  | .distinctFrom => " is distinct from "
  | .notDistinctFrom => " is not distinct from "
  | op => op.text

/-- The operator that says the same of the operands in the other order. -/
def invert : ComparisonOp → ComparisonOp
  | .lt => .gt
  | .lte => .gte
  | .gt => .lt
  | .gte => .lte
  | op => op

def negate : ComparisonOp → ComparisonOp
  | .eq => .ne
  | .ne => .eq
  | .lt => .gte
  | .lte => .gt
  | .gt => .lte
  | .gte => .lt
  | .distinctFrom => .notDistinctFrom
  | .notDistinctFrom => .distinctFrom

def strict : ComparisonOp → ComparisonOp
  | .lte => .lt
  | .gte => .gt
  | op => op

def inclusive : ComparisonOp → ComparisonOp
  | .lt => .lte
  | .gt => .gte
  | op => op

def isOrdering : ComparisonOp → Bool
  | .lt | .lte | .gt | .gte => true
  | _ => false

def isDistinctness : ComparisonOp → Bool
  | .distinctFrom | .notDistinctFrom => true
  | _ => false

theorem invert_invert (op : ComparisonOp) : op.invert.invert = op := by
  cases op <;> rfl

theorem negate_negate (op : ComparisonOp) : op.negate.negate = op := by
  cases op <;> rfl

end ComparisonOp

inductive ArithmeticOp where
  | add
  | subtract
  | multiply
  -- Division as the database defines it.
  | divide
  -- Division that is integer division when both operands are integral.
  | dividePortable
  | modulo
  deriving DecidableEq, Repr

def ArithmeticOp.text : ArithmeticOp → String
  | .add => "+"
  | .subtract => "-"
  | .multiply => "*"
  | .divide | .dividePortable => "/"
  | .modulo => "%"

inductive SummarizationKind where
  | rollup
  | cube
  deriving DecidableEq, Repr

def SummarizationKind.text : SummarizationKind → String
  | .rollup => "rollup"
  | .cube => "cube"

/-- How many rows of a subquery an expression stands for. -/
inductive Quantifier where
  -- The single row of a scalar subquery.
  | one
  -- Some row, as the operand of a comparison.
  | any
  -- Every row, as the operand of a comparison.
  | every
  deriving DecidableEq, Repr

inductive JunctionKind where
  | and
  | or
  deriving DecidableEq, Repr

def JunctionKind.separator : JunctionKind → String
  | .and => " and "
  | .or => " or "

inductive JoinKind where
  | inner
  | left
  | right
  | full
  | cross
  deriving DecidableEq, Repr

def JoinKind.text : JoinKind → String
  | .inner => " join "
  | .left => " left join "
  | .right => " right join "
  | .full => " full join "
  | .cross => " cross join "

inductive NullPrecedence where
  | first
  | last
  deriving DecidableEq, Repr

def NullPrecedence.text : NullPrecedence → String
  | .first => " nulls first"
  | .last => " nulls last"

inductive LockMode where
  | read
  | write
  deriving DecidableEq, Repr

def LockMode.text : LockMode → String
  | .read => " for share"
  | .write => " for update"

inductive LockWait where
  | wait
  | noWait
  | skipLocked
  deriving DecidableEq, Repr, Inhabited

def LockWait.text : LockWait → String
  | .wait => ""
  | .noWait => " nowait"
  | .skipLocked => " skip locked"

/-- Whether locks may be taken by statements that follow the query. -/
inductive FollowOn where
  | allow
  | disallow
  | force
  -- A lock clause, whatever the configuration prefers.
  | ignore
  deriving DecidableEq, Repr, Inhabited

structure LockOptions where
  mode : LockMode
  wait : LockWait := .wait
  followOn : FollowOn := .allow
  deriving DecidableEq, Repr

inductive LockStrategy where
  | none
  | clause
  | followOn
  deriving DecidableEq, Repr, Inhabited

def LockStrategy.name : LockStrategy → String
  | .none => "none"
  | .clause => "clause"
  | .followOn => "follow_on"

end PortableSql
