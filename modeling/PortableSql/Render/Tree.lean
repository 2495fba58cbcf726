import PortableSql.Render.Construct

/-! The traversal of expressions, predicates and queries.

Each function renders the parts of a node and hands them to the construct that the node is. A query
comes out with its parts beside its text, an expression in the form that comparisons look at, and an
optional predicate that restricts nothing like one that is not there.
-/

set_option autoImplicit false

namespace PortableSql.Render

mutual

/-- An expression in the form that comparisons look at. -/
def operand (target : Target) : Expr → Operand
  | .star => .plain (.text "*")
  | .literal value => .plain (value.fragment target.config)
  | .column column => .plain column.fragment
  | .parameter parameter => .plain (.placeholder parameter)
  | .arithmetic left op right =>
    .plain (arithmetic target left op right (operand target left).fragment
      (operand target right).fragment)
  | .function call => .plain (function target call)
  | .window call partitionBy orderBy =>
    .plain (window (function target call) (partitionItems target partitionBy)
      (sortItems target orderBy))
  | .tuple items => .row (exprs target items)
  | .subquery quantifier nested => .subquery quantifier (query target nested)
  | .summarization kind groupings => .plain (functionOf kind.text (exprs target groupings))

def exprs (target : Target) : List Expr → List Fragment
  | [] => []
  | expr :: rest => (operand target expr).fragment :: exprs target rest

def function (target : Target) : FunctionCall → Fragment
  | ⟨name, args, _⟩ => functionOf name (exprs target args)

def partitionItems (target : Target) : List Expr → List Fragment
  | [] => []
  | item :: rest =>
    partitionItem target item (operand target item).fragment :: partitionItems target rest

def sortItems (target : Target) : List SortItem → List Fragment
  | [] => []
  | ⟨expr, descending, nulls⟩ :: rest =>
    sortItem (operand target expr).fragment descending nulls :: sortItems target rest

def predicate (target : Target) : Predicate → Fragment
  | .comparison left op right => comparison target (operand target left) op (operand target right)
  | .inList test values negated =>
    inList (operand target test).fragment (exprs target values) negated
  | .inSubquery test nested negated =>
    (operand target test).fragment ++ .text (if negated then " not in " else " in ")
      ++ (query target nested).subquery
  | .inArray test array =>
    inArray target (operand target test).fragment (operand target array).fragment
  | .like node => match node with
    | ⟨expr, pattern, escape, caseSensitive, negated⟩ =>
      like target ⟨expr, pattern, escape, caseSensitive, negated⟩ (operand target expr).fragment
        (operand target pattern).fragment (optional target escape)
  | .nullness expr negated =>
    (operand target expr).fragment ++ .text (if negated then " is not null" else " is null")
  | .between expr low high negated =>
    (operand target expr).fragment ++ .text (if negated then " not between " else " between ")
      ++ (operand target low).fragment ++ .text " and " ++ (operand target high).fragment
  | .existence nested negated =>
    .onlyIf negated (.text "not ") ++ .text "exists " ++ (query target nested).subquery
  | .junction kind parts => .separated kind.separator (junctionParts target parts)
  | .negation inner => .text "not " ++ .parens (predicate target inner)

/-- The parts of a junction that are not empty. -/
def junctionParts (target : Target) : List Predicate → List Fragment
  | [] => []
  | part :: rest => junctionPart part (predicate target part) ++ junctionParts target rest

/-- A condition that restricts something. -/
def condition (target : Target) : Option Predicate → Option Fragment
  | none => none
  | some restriction => if restriction.isEmpty then none else some (predicate target restriction)

def optional (target : Target) : Option Expr → Option Fragment
  | none => none
  | some expr => some (operand target expr).fragment

def query (target : Target) : Query → RenderedQuery
  | ⟨distinct, selections, sources, restriction, groupBy, having, orderBy, offset, fetch, lock⟩ =>
    queryOf target {
      distinct
      selections := selectionList target selections
      sources := groups target sources
      restriction := condition target restriction
      groupBy := partitionItems target groupBy
      hasHaving := having.isSome
      having := condition target having
      orderBy := sortItems target orderBy
      offset := optional target offset
      fetch := optional target fetch
      lock }

def selectionList (target : Target) : List Selection → List (Fragment × Option String)
  | [] => []
  | ⟨expr, aliasName⟩ :: rest => ((operand target expr).fragment, aliasName) :: selectionList target rest

def groups (target : Target) : List TableGroup → List Fragment
  | [] => []
  | ⟨primary, joined⟩ :: rest => (table target primary ++ joins target joined) :: groups target rest

def joins (target : Target) : List Join → Fragment
  | [] => .nil
  | ⟨kind, joined, on⟩ :: rest =>
    join kind (table target joined) (condition target on) ++ joins target rest

def table (target : Target) : TableRef → Fragment
  | .named named => named.fragment
  | .derived derived => match derived with
    | ⟨origin, aliasName, columnNames, lateral⟩ =>
      derivedTable target ⟨origin, aliasName, columnNames, lateral⟩ (source target origin)

def source (target : Target) : DerivedSource → RenderedSource
  | .query nested => .query nested (query target nested)
  | .function call => .function call (function target call)

end

def expr (target : Target) (expr : Expr) : Fragment :=
  (operand target expr).fragment

end PortableSql.Render
