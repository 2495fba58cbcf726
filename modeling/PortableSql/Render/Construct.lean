import PortableSql.Dialect.Spanner

/-! Constructs put together from rendered parts.

Each construct that a dialect may render in its own way is offered to the dialect here, with its
standard rendering as the alternative. The functions take finished parts, so that none of them
recurses; the traversal of a statement is `Render.expr` and its companions.
-/

set_option autoImplicit false

namespace PortableSql.Render

variable (target : Target)

def functionOf (name : String) (args : List Fragment) : Fragment :=
  .text name ++ .parens (.separated "," args)

def standardArithmetic (l : Fragment) (op : ArithmeticOp) (r : Fragment) : Fragment :=
  if op = .modulo then functionOf "mod" [l, r]
  else .parens (l ++ .text op.text ++ r)

def arithmetic (left : Expr) (op : ArithmeticOp) (right : Expr) (l r : Fragment) : Fragment :=
  .offer .arithmetic (target.overrides.arithmetic left op right l r) (standardArithmetic l op r)

/-- A grouping item in the standard way: a literal is the grouping of everything. -/
def standardPartitionItem (item : Expr) (rendered : Fragment) : Fragment :=
  match item with
  | .literal _ => .text "()"
  | _ => rendered

def partitionItem (item : Expr) (rendered : Fragment) : Fragment :=
  .offer .partitionItem (target.overrides.partitionItem item) (standardPartitionItem item rendered)

def sortItem (rendered : Fragment) (descending : Bool) (nulls : Option NullPrecedence) : Fragment :=
  rendered ++ .onlyIf descending (.text " desc") ++ .ifSome nulls fun nulls => .text nulls.text

def window (call : Fragment) (partitionBy orderBy : List Fragment) : Fragment :=
  call ++ .text " over ("
    ++ .onlyIf (!partitionBy.isEmpty)
      (.inClause .partition (.text "partition by " ++ .separated "," partitionBy))
    ++ .onlyIf (!partitionBy.isEmpty && !orderBy.isEmpty) (.text " ")
    ++ .onlyIf (!orderBy.isEmpty)
      (.inClause .orderBy (.text "order by " ++ .separated "," orderBy))
    ++ .text ")"

def rowComparison : RowComparison := fun left right op =>
  .offer .rowComparison (target.overrides.rowComparison left right op)
    (RowValue.expand false left right op)

def comparison (left : Operand) (op : ComparisonOp) (right : Operand) : Fragment :=
  .offer .comparison (target.overrides.comparison (rowComparison target) left op right)
    (RowValue.native left op right)

/-- Membership in a list; nothing is in the empty list. -/
def inList (test : Fragment) (values : List Fragment) (negated : Bool) : Fragment :=
  if values.isEmpty then .text (if negated then "1=1" else "1=0")
  else test ++ .text (if negated then " not in " else " in ") ++ .parens (.separated "," values)

def inArray (test array : Fragment) : Fragment :=
  .offer .inArray (target.overrides.inArray test array) (test ++ .text "=any" ++ .parens array)

def like (node : Like) (expr pattern : Fragment) (escape : Option Fragment) : Fragment :=
  .offer .like (target.overrides.like target.config node expr pattern escape)
    (Pattern.standard node.caseSensitive node.negated expr pattern escape)

/-- A predicate as a part of a junction; an empty one is left out, and one that is itself a junction
of several parts is put in parentheses. -/
def junctionPart (part : Predicate) (rendered : Fragment) : List Fragment :=
  if part.isEmpty then [] else if part.isSeveral then [.parens rendered] else [rendered]

/-- The selections with their aliases; aliases that are forced go before their own. -/
def aliased : List (Fragment × Option String) → List String → List Fragment
  | [], _ => []
  | (rendered, own) :: selections, [] =>
    (rendered ++ .ifSome own .aliasText) :: aliased selections []
  | (rendered, _) :: selections, forced :: aliases =>
    (rendered ++ .aliasText forced) :: aliased selections aliases

/-- The selections of a query in a scope; no selections stand for all columns. -/
def selections (scope : Scope) (selections : List (Fragment × Option String)) : Fragment :=
  if selections.isEmpty then .text "*" else .separated "," (aliased selections scope.aliases)

def selectClause (distinct : Bool) (scope : Scope) (rendered : List (Fragment × Option String)) :
    Fragment :=
  let list := selections scope rendered
  .offer .selectClause (target.overrides.selectClause distinct scope list)
    (.text "select " ++ .onlyIf distinct (.text "distinct ") ++ list)

def standardPaging (offset fetch : Option Fragment) : Fragment :=
  (Fragment.ifSome offset fun fragment =>
      .inClause .offset (.text " offset " ++ fragment ++ .text " rows"))
    ++ .ifSome fetch fun fragment =>
      .inClause .fetch (.text " fetch first " ++ fragment ++ .text " rows only")

def offsetFetch (offset fetch : Option Fragment) : Fragment :=
  .offer .offsetFetch (target.overrides.offsetFetch offset fetch) (standardPaging offset fetch)

/-- How locks are taken when the dialect has no opinion. -/
def standardLockStrategy (config : Config) (lock : LockOptions) : LockStrategy :=
  match lock.followOn with
  | .force => .followOn
  | .allow => if config.followOnLocking then .followOn else .clause
  | .disallow | .ignore => .clause

def lockStrategy (lock : LockOptions) : LockStrategy :=
  (target.overrides.lockStrategy lock).getD (standardLockStrategy target.config lock)

/-- The locks of a query: a choice and, if it is the clause, the clause. -/
def locking (lock : LockOptions) : Fragment :=
  let strategy := lockStrategy target lock
  .mark (.lock (target.overrides.lockStrategy lock) strategy)
    ++ .onlyIf (strategy == .clause)
      (.inClause .forUpdate (.text lock.mode.text ++ .text lock.wait.text))

def queryInScope (parts : QueryParts) (scope : Scope) : Fragment :=
  .inClause .select (selectClause target parts.distinct scope parts.selections)
    ++ .onlyIf (!parts.sources.isEmpty)
      (.inClause .sources (.text " from " ++ .separated "," parts.sources))
    ++ RowValue.restriction .restriction " where " parts.restriction
    ++ RowValue.grouping parts.groupBy
    ++ RowValue.restriction .having " having " parts.having
    ++ .onlyIf (!parts.orderBy.isEmpty)
      (.inClause .orderBy (.text " order by " ++ .separated "," parts.orderBy))
    ++ offsetFetch target parts.offset parts.fetch
    ++ .ifSome parts.lock (locking target)

def queryOf (parts : QueryParts) : RenderedQuery :=
  ⟨parts, queryInScope target parts⟩

def queryPart (query : Query) (rendered : RenderedQuery) (names : List String) : Fragment :=
  .offer .queryPart (target.overrides.queryPart query rendered names) rendered.subquery

def derivedAlias (table : DerivedTable) : Fragment :=
  .offer .derivedAlias (target.overrides.derivedAlias table)
    (table.aliasFragment ++ .onlyIf (!table.columnNames.isEmpty) (.parens (.names table.columnNames)))

def derivedTable (table : DerivedTable) (source : RenderedSource) : Fragment :=
  .offer .derivedTable (target.overrides.derivedTable table source)
    (.onlyIf table.lateral (.text "lateral ")
      ++ (match source with
        | .query query rendered => queryPart target query rendered table.columnNames
        | .function _ rendered => rendered)
      ++ derivedAlias target table)

def join (kind : JoinKind) (table : Fragment) (on : Option Fragment) : Fragment :=
  .text kind.text ++ table ++ .ifSome on fun condition => .text " on " ++ condition

end PortableSql.Render
