import PortableSql.Render.Construct
import PortableSql.Writer.Hooks

/-! The traversal of expressions, predicates and queries, as actions.

Each construct that a dialect may write in its own way is first given to the hook of the dialect. The parts of
a node reach its construct as actions, which are taken one after another, so that each goes on with the writer
that the one before has left.
-/

set_option autoImplicit false

namespace PortableSql.Write

section Constructs

variable (target : Target)

def functionOf (name : String) (args : List Action) : Action := do
  append name
  parens (separated "," args)

def standardArithmetic (l : Action) (op : ArithmeticOp) (r : Action) : Action :=
  if op = .modulo then functionOf "mod" [l, r]
  else parens do
    l
    append op.text
    r

def arithmetic (left : Expr) (op : ArithmeticOp) (right : Expr) (l r : Action) : Action :=
  offer (target.hooks.arithmetic left op right l r) (standardArithmetic l op r)

def standardPartitionItem (item : Expr) (action : Action) : Action :=
  match item with
  | .literal _ => append "()"
  | _ => action

def partitionItem (item : Expr) (action : Action) : Action :=
  offer (target.hooks.partitionItem item) (standardPartitionItem item action)

def sortItem (action : Action) (descending : Bool) (nulls : Option NullPrecedence) : Action := do
  action
  onlyIf descending (append " desc")
  ifSome nulls fun nulls => append nulls.text

def window (call : Action) (partitionBy orderBy : List Action) : Action := do
  call
  append " over ("
  onlyIf (!partitionBy.isEmpty) <| inClause .partition do
    append "partition by "
    separated "," partitionBy
  onlyIf (!partitionBy.isEmpty && !orderBy.isEmpty) (append " ")
  onlyIf (!orderBy.isEmpty) <| inClause .orderBy do
    append "order by "
    separated "," orderBy
  append ")"

def rowComparison : RowAction := fun left right op =>
  offer (target.hooks.rowComparison left right op) (expand false left right op)

def comparison (left : OperandAction) (op : ComparisonOp) (right : OperandAction) : Action :=
  offer (target.hooks.comparison (rowComparison target) left op right) (native left op right)

def inList (test : Action) (values : List Action) (negated : Bool) : Action :=
  if values.isEmpty then append (if negated then "1=1" else "1=0")
  else do
    test
    append (if negated then " not in " else " in ")
    parens (separated "," values)

def inArray (test array : Action) : Action :=
  offer (target.hooks.inArray test array) do
    test
    append "=any"
    parens array

def like (node : Like) (expr pattern : Action) (escape : Option Action) : Action :=
  offer (target.hooks.like target.config node expr pattern escape)
    (standardMatch node.caseSensitive node.negated expr pattern escape)

def junctionPart (part : Predicate) (action : Action) : List Action :=
  if part.isEmpty then [] else if part.isSeveral then [parens action] else [action]

def aliased : List (Action × Option String) → List String → List Action
  | [], _ => []
  | (action, own) :: selections, [] =>
    (do action; ifSome own aliasText) :: aliased selections []
  | (action, _) :: selections, forced :: aliases =>
    (do action; aliasText forced) :: aliased selections aliases

def selections (scope : Scope) (selections : List (Action × Option String)) : Action :=
  if selections.isEmpty then append "*" else separated "," (aliased selections scope.aliases)

def selectClause (distinct : Bool) (scope : Scope) (list : List (Action × Option String)) : Action :=
  offer (target.hooks.selectClause distinct scope (selections scope list)) do
    append "select "
    onlyIf distinct (append "distinct ")
    selections scope list

def standardPaging (offset fetch : Option Action) : Action := do
  ifSome offset fun action => inClause .offset do
    append " offset "
    action
    append " rows"
  ifSome fetch fun action => inClause .fetch do
    append " fetch first "
    action
    append " rows only"

def offsetFetch (offset fetch : Option Action) : Action :=
  offer (target.hooks.offsetFetch offset fetch) (standardPaging offset fetch)

def lockStrategy (lock : LockOptions) : LockStrategy :=
  (target.hooks.lockStrategy lock).getD (Render.standardLockStrategy target.config lock)

def locking (lock : LockOptions) : Action := do
  chooseLock (lockStrategy target lock)
  onlyIf (lockStrategy target lock == .clause) <| inClause .forUpdate do
    append lock.mode.text
    append lock.wait.text

def queryInScope (parts : QueryActions) (scope : Scope) : Action := do
  inClause .select (selectClause target parts.distinct scope parts.selections)
  onlyIf (!parts.sources.isEmpty) <| inClause .sources do
    append " from "
    separated "," parts.sources
  restriction .restriction " where " parts.restriction
  grouping parts.groupBy
  restriction .having " having " parts.having
  onlyIf (!parts.orderBy.isEmpty) <| inClause .orderBy do
    append " order by "
    separated "," parts.orderBy
  offsetFetch target parts.offset parts.fetch
  ifSome parts.lock (locking target)

def queryOf (parts : QueryActions) : ScopedQuery :=
  ⟨parts, queryInScope target parts⟩

def queryPart (query : Query) (written : ScopedQuery) (names : List String) : Action :=
  offer (target.hooks.queryPart query written names) written.subquery

def derivedAlias (table : DerivedTable) : Action :=
  offer (target.hooks.derivedAlias table) do
    aliasText table.aliasName
    onlyIf (!table.columnNames.isEmpty) (parens (names table.columnNames))

def sourcePart (table : DerivedTable) : SourceAction → Action
  | .query query written => queryPart target query written table.columnNames
  | .function _ action => action

def derivedTable (table : DerivedTable) (source : SourceAction) : Action :=
  offer (target.hooks.derivedTable table source) do
    onlyIf table.lateral (append "lateral ")
    sourcePart target table source
    derivedAlias target table

def join (kind : JoinKind) (table : Action) (on : Option Action) : Action := do
  append kind.text
  table
  ifSome on fun condition => do
    append " on "
    condition

end Constructs

mutual

/-- An expression in the form that comparisons look at. -/
def operand (target : Target) : Expr → OperandAction
  | .star => .plain (append "*")
  | .literal value => .plain (literal target.config value)
  | .column node => .plain (column node)
  | .parameter parameter => .plain (addParameter parameter)
  | .arithmetic left op right =>
    .plain (arithmetic target left op right (operand target left).action (operand target right).action)
  | .function call => .plain (function target call)
  | .window call partitionBy orderBy =>
    .plain (window (function target call) (partitionItems target partitionBy) (sortItems target orderBy))
  | .tuple items => .row (exprs target items)
  | .subquery quantifier nested => .subquery quantifier (query target nested)
  | .summarization kind groupings => .plain (functionOf kind.text (exprs target groupings))

def exprs (target : Target) : List Expr → List Action
  | [] => []
  | expr :: rest => (operand target expr).action :: exprs target rest

def function (target : Target) : FunctionCall → Action
  | ⟨name, args, _⟩ => functionOf name (exprs target args)

def partitionItems (target : Target) : List Expr → List Action
  | [] => []
  | item :: rest => partitionItem target item (operand target item).action :: partitionItems target rest

def sortItems (target : Target) : List SortItem → List Action
  | [] => []
  | ⟨expr, descending, nulls⟩ :: rest =>
    sortItem (operand target expr).action descending nulls :: sortItems target rest

def predicate (target : Target) : Predicate → Action
  | .comparison left op right => comparison target (operand target left) op (operand target right)
  | .inList test values negated => inList (operand target test).action (exprs target values) negated
  | .inSubquery test nested negated => do
    (operand target test).action
    append (if negated then " not in " else " in ")
    (query target nested).subquery
  | .inArray test array => inArray target (operand target test).action (operand target array).action
  | .like node => match node with
    | ⟨expr, pattern, escape, caseSensitive, negated⟩ =>
      like target ⟨expr, pattern, escape, caseSensitive, negated⟩ (operand target expr).action
        (operand target pattern).action (optional target escape)
  | .nullness expr negated => do
    (operand target expr).action
    append (if negated then " is not null" else " is null")
  | .between expr low high negated => do
    (operand target expr).action
    append (if negated then " not between " else " between ")
    (operand target low).action
    append " and "
    (operand target high).action
  | .existence nested negated => do
    onlyIf negated (append "not ")
    append "exists "
    (query target nested).subquery
  | .junction kind parts => separated kind.separator (junctionParts target parts)
  | .negation inner => do
    append "not "
    parens (predicate target inner)

/-- The parts of a junction that are not empty. -/
def junctionParts (target : Target) : List Predicate → List Action
  | [] => []
  | part :: rest => junctionPart part (predicate target part) ++ junctionParts target rest

/-- A condition that restricts something. -/
def condition (target : Target) : Option Predicate → Option Action
  | none => none
  | some restriction => if restriction.isEmpty then none else some (predicate target restriction)

def optional (target : Target) : Option Expr → Option Action
  | none => none
  | some expr => some (operand target expr).action

def query (target : Target) : Query → ScopedQuery
  | ⟨distinct, selections, sources, restriction, groupBy, having, orderBy, offset, fetch, lock⟩ =>
    queryOf target {
      distinct
      selections := selectionList target selections
      sources := groups target sources
      restriction := condition target restriction
      groupBy := partitionItems target groupBy
      hasHaving := having.isSome
      having := condition target having
      orderBy := sortItems target orderBy
      offset := optional target offset
      fetch := optional target fetch
      lock }

def selectionList (target : Target) : List Selection → List (Action × Option String)
  | [] => []
  | ⟨expr, aliasName⟩ :: rest => ((operand target expr).action, aliasName) :: selectionList target rest

def groups (target : Target) : List TableGroup → List Action
  | [] => []
  | ⟨primary, joined⟩ :: rest =>
    (do table target primary; joins target joined) :: groups target rest

def joins (target : Target) : List Join → Action
  | [] => pure ()
  | ⟨kind, joined, on⟩ :: rest => do
    join kind (table target joined) (condition target on)
    joins target rest

def table (target : Target) : TableRef → Action
  | .named named => namedTable named
  | .derived derived => match derived with
    | ⟨origin, aliasName, columnNames, lateral⟩ =>
      derivedTable target ⟨origin, aliasName, columnNames, lateral⟩ (source target origin)

def source (target : Target) : DerivedSource → SourceAction
  | .query nested => .query nested (query target nested)
  | .function call => .function call (function target call)

end

def expr (target : Target) (expr : Expr) : Action :=
  (operand target expr).action

end PortableSql.Write
