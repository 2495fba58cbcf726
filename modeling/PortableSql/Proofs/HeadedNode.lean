import PortableSql.Proofs.QueryHead
import PortableSql.Proofs.QueryScope

/-! All nodes that Spanner writes have heads.

A query is headed behind what goes with its scope, a statement with nothing before it, and every other node
wherever it stands (`Node.Headed`). The places that start a query are few: parentheses and insertions start it in
the plain scope, derived tables in a scope of their own; whatever lies between such a place and the next one says
nothing about scopes. By induction over the nodes of a statement they all are headed (`Render.node_headed`).
-/

set_option autoImplicit false

namespace PortableSql

/-- Whether a node has heads where it is written. -/
def Node.Headed (node : Node) (config : Config) (root : Node) : Prop :=
  match node with
  | .query nested => ∀ scope previous, root.Places nested scope →
    (scope.correlated = true ↔ previous = some Mark.unnesting) →
      Mark.Headed config root previous ((Render.query ⟨.spanner, config⟩ nested).inScope scope).marks
  | .statement change => Mark.Headed config root none (Render.statement ⟨.spanner, config⟩ change).marks
  | node => Fragment.Headed config root (node.fragment ⟨.spanner, config⟩ {})

namespace Render

open Fragment (Headed)

variable {config : Config} {root : Node}

theorem exprs_headed {items : List Expr} (headed : ∀ node ∈ items.map Node.expr, node.Headed config root) :
    ∀ fragment ∈ exprs ⟨.spanner, config⟩ items, Headed config root fragment := by
  rw [exprs_eq_map]
  exact List.forall_mem_map.mpr fun e mem => headed _ (List.mem_map_of_mem mem)

theorem functionOf_headed (name : String) {args : List Fragment}
    (headed : ∀ fragment ∈ args, Headed config root fragment) : Headed config root (functionOf name args) :=
  (Headed.separated "," headed).parens.behind name

theorem function_headed {call : FunctionCall} (headed : ∀ node ∈ call.nodes, node.Headed config root) :
    Headed config root (function ⟨.spanner, config⟩ call) := by
  obtain ⟨name, args, returnType⟩ := call
  exact functionOf_headed name (exprs_headed headed)

theorem value_headed (value : Value) : Headed config root (value.fragment config) := by
  cases value with
  | string => exact .mark rfl
  | null | bool | int | float | date | timestamp => exact .text _

theorem column_headed (column : ColumnRef) : Headed config root column.fragment :=
  (Headed.ifSome fun _ _ => (Headed.text _).ahead ".").ahead column.name

theorem aliasText_headed (aliasName : String) : Headed config root (.aliasText aliasName) :=
  (Headed.text aliasName).behind " "

theorem arithmetic_headed (left : Expr) (op : ArithmeticOp) (right : Expr) {l r : Fragment}
    (first : Headed config root l) (second : Headed config root r) :
    Headed config root (arithmetic ⟨.spanner, config⟩ left op right l r) := by
  have standard : Headed config root (standardArithmetic l op r) := by
    unfold standardArithmetic
    split
    · exact functionOf_headed "mod" (by simp [first, second])
    · exact ((first.ahead op.text).append second).parens
  show Headed config root (.offer .arithmetic (Spanner.arithmetic left op right l r) _)
  unfold Spanner.arithmetic
  split
  · exact .offered .arithmetic nofun (((first.ahead ",").append second).parens.behind "div")
  · exact .standard .arithmetic nofun standard

theorem sortItem_headed {fragment : Fragment} (own : Headed config root fragment) (descending : Bool)
    (nulls : Option NullPrecedence) : Headed config root (sortItem fragment descending nulls) :=
  (own.append (.onlyIf descending (.text " desc"))).append (.ifSome fun nulls _ => .text nulls.text)

theorem window_headed {call : Fragment} {partitions sorts : List Fragment} (function : Headed config root call)
    (partitioned : ∀ fragment ∈ partitions, Headed config root fragment)
    (sorted : ∀ fragment ∈ sorts, Headed config root fragment) :
    Headed config root (window call partitions sorts) :=
  ((((function.ahead " over (").append (.clause "partition by " .partition partitioned)).append
    (.onlyIf _ (.text " "))).append (.clause "order by " .orderBy sorted)).ahead ")"

theorem partitionItems_headed {items : List Expr} (headed : ∀ node ∈ items.map Node.item, node.Headed config root) :
    ∀ fragment ∈ partitionItems ⟨.spanner, config⟩ items, Headed config root fragment := by
  rw [partitionItems_eq_map]
  exact List.forall_mem_map.mpr fun e mem => headed _ (List.mem_map_of_mem mem)

theorem sortItems_headed {items : List SortItem}
    (headed : ∀ node ∈ items.map (Node.expr ·.expr), node.Headed config root) :
    ∀ fragment ∈ sortItems ⟨.spanner, config⟩ items, Headed config root fragment := by
  rw [sortItems_eq_map]
  exact List.forall_mem_map.mpr fun item mem =>
    sortItem_headed (headed _ (List.mem_map_of_mem mem)) item.descending item.nulls

theorem groups_headed {sources : List TableGroup}
    (headed : ∀ node ∈ sources.map Node.group, node.Headed config root) :
    ∀ fragment ∈ groups ⟨.spanner, config⟩ sources, Headed config root fragment := by
  rw [groups_eq_map]
  exact List.forall_mem_map.mpr fun from_ mem => headed _ (List.mem_map_of_mem mem)

/-- A query in parentheses is not correlated. -/
theorem parens_headed {nested : Query} {aliases : List String} (own : (Node.query nested).Headed config root)
    (places : root.Places nested { aliases }) :
    Headed config root (.parens ((query ⟨.spanner, config⟩ nested).inScope { aliases })) := by
  have goes : ({ aliases } : Scope).correlated = true ↔ some (.text "(") = some Mark.unnesting :=
    iff_of_false Bool.false_ne_true (by decide)
  exact (Headed.opened (own _ _ places goes)).ahead ")"

theorem subquery_headed {nested : Query} (own : (Node.query nested).Headed config root)
    (places : root.Places nested {}) : Headed config root (query ⟨.spanner, config⟩ nested).subquery :=
  parens_headed own places

theorem expr_headed {e : Expr} (within : root.Within (.expr e)) (headed : ∀ node ∈ e.nodes, node.Headed config root) :
    (Node.expr e).Headed config root := by
  show Headed config root (operand ⟨.spanner, config⟩ e).fragment
  cases e with
  | star => exact .text "*"
  | literal value => exact value_headed value
  | column column => exact column_headed column
  | parameter parameter => exact .mark rfl
  | arithmetic left op right =>
    exact arithmetic_headed left op right (headed (.expr left) (.head _)) (headed (.expr right) (.tail _ (.head _)))
  | function call => exact function_headed headed
  | window call partitionBy orderBy =>
    simp only [Expr.nodes, List.forall_mem_append] at headed
    obtain ⟨⟨args, partitions⟩, sorts⟩ := headed
    exact window_headed (function_headed args) (partitionItems_headed partitions) (sortItems_headed sorts)
  | tuple items => exact (Headed.separated "," (exprs_headed headed)).parens
  | subquery quantifier rows =>
    have own := subquery_headed (headed (.query rows) (.head _)) ⟨_, within, .head _, rfl⟩
    cases quantifier with
    | one => exact own
    | any => exact own.behind "any"
    | every => exact own.behind "all"
  | summarization kind groupings => exact functionOf_headed kind.text (exprs_headed headed)

theorem item_headed {e : Expr} (own : (Node.expr e).Headed config root) : (Node.item e).Headed config root := by
  cases e with
  | literal value => exact .offered .partitionItem nofun (.text "'0' || '0'")
  | summarization kind groupings => exact .offered .partitionItem nofun (.fail (.summarization kind))
  | star | column | parameter | arithmetic | function | window | tuple | subquery =>
    exact .standard .partitionItem nofun own

/-- A condition that restricts something, with what is written around it. -/
theorem condition_headed {restriction : Option Predicate} {around : Fragment → Fragment}
    (kept : ∀ fragment, Headed config root fragment → Headed config root (around fragment))
    (headed : ∀ node ∈ Predicate.visited restriction, node.Headed config root) :
    Headed config root (.ifSome (condition ⟨.spanner, config⟩ restriction) around) := by
  rw [condition_eq_map]
  unfold Predicate.visited at headed
  cases visited : Predicate.effective? restriction with
  | none => exact .nil
  | some p =>
    rw [visited] at headed
    exact kept _ (headed (.predicate p) (.head _))

theorem restriction_headed {restriction : Option Predicate} (clause : Clause) (keyword : String)
    (headed : ∀ node ∈ Predicate.visited restriction, node.Headed config root) :
    Headed config root (RowValue.restriction clause keyword (condition ⟨.spanner, config⟩ restriction)) :=
  condition_headed (fun _ own => (own.behind keyword).inClause clause) headed

theorem offsetFetch_headed {offset fetch : Option Expr}
    (first : ∀ node ∈ offset.toList.map Node.expr, node.Headed config root)
    (second : ∀ node ∈ fetch.toList.map Node.expr, node.Headed config root) :
    Headed config root (offsetFetch ⟨.spanner, config⟩ (optional ⟨.spanner, config⟩ offset)
      (optional ⟨.spanner, config⟩ fetch)) := by
  have limit (clause : Clause) (keyword : String) {value : Option Expr}
      (headed : ∀ node ∈ value.toList.map Node.expr, node.Headed config root) :
      Headed config root (.ifSome (optional ⟨.spanner, config⟩ value) fun fragment =>
        .inClause clause (.text keyword ++ fragment)) := by
    cases value with
    | none => exact .nil
    | some e =>
      have own : Headed config root (expr ⟨.spanner, config⟩ e) := headed (.expr e) (.head _)
      exact (own.behind keyword).inClause clause
  exact .offered .offsetFetch nofun ((limit .fetch " limit " second).append (limit .offset " offset " first))

theorem aliased_headed {list : List (Fragment × Option String)} (aliases : List String)
    (headed : ∀ selection ∈ list, Headed config root selection.1) :
    ∀ fragment ∈ aliased list aliases, Headed config root fragment := by
  induction list generalizing aliases with
  | nil => exact fun _ mem => absurd mem List.not_mem_nil
  | cons selection list ih =>
    obtain ⟨own, others⟩ := List.forall_mem_cons.mp headed
    cases aliases with
    | nil =>
      have title : Headed config root (.ifSome selection.2 .aliasText) := .ifSome fun name _ => aliasText_headed name
      exact List.forall_mem_cons.mpr ⟨own.append title, ih [] others⟩
    | cons forced aliases => exact List.forall_mem_cons.mpr ⟨own.append (aliasText_headed forced), ih aliases others⟩

theorem selections_headed {list : List Selection} (scope : Scope)
    (headed : ∀ node ∈ list.map (Node.expr ·.expr), node.Headed config root) :
    Headed config root (selections scope (selectionList ⟨.spanner, config⟩ list)) := by
  have each : ∀ selection ∈ selectionList ⟨.spanner, config⟩ list, Headed config root selection.1 := by
    rw [selectionList_eq_map]
    exact List.forall_mem_map.mpr fun selection mem => headed _ (List.mem_map_of_mem mem)
  unfold selections
  split
  · exact .text "*"
  · exact .separated "," (aliased_headed scope.aliases each)

/-- A select clause is the head of its own query, behind what goes with the scope. -/
theorem selectClause_headed {nested : Query} {scope : Scope} {previous : Option Mark}
    (places : root.Places nested scope) (goes : scope.correlated = true ↔ previous = some Mark.unnesting)
    (selected : ∀ node ∈ nested.selections.map (Node.expr ·.expr), node.Headed config root) :
    Mark.Headed config root previous (selectClause ⟨.spanner, config⟩ nested.distinct scope
      (selectionList ⟨.spanner, config⟩ nested.selections)).marks := by
  have opening : Headed config root (.text "select " ++ .onlyIf scope.correlated (.text "as struct ")
      ++ .onlyIf nested.distinct (.text "distinct ")) :=
    (Headed.append (.text _) (.onlyIf _ (.text _))).append (.onlyIf _ (.text _))
  refine ⟨fun _ => ⟨nested, scope, "", places, goes, ?_⟩, opening.append (selections_headed scope selected) _⟩
  rw [String.append_empty]
  exact String.empty_append.symm

theorem queryRest_headed {nested : Query} (visited : ∀ node ∈ nested.visits, node.Headed config root) :
    Headed config root (queryRest ⟨.spanner, config⟩ (query ⟨.spanner, config⟩ nested).parts) := by
  simp only [Query.visits, Query.core, List.forall_mem_append] at visited
  obtain ⟨⟨⟨⟨_, ⟨⟨sources, restricted⟩, grouped⟩, having⟩, sorted⟩, offset⟩, fetch⟩ := visited
  have locks : Headed config root (.ifSome nested.lock (locking ⟨.spanner, config⟩)) :=
    .ifSome fun lock _ => (Headed.mark rfl).append
      (.onlyIf _ (((Headed.text lock.mode.text).ahead lock.wait.text).inClause .forUpdate))
  rw [query_parts]
  exact ((((((Headed.clause " from " .sources (groups_headed sources)).append
    (restriction_headed .restriction " where " restricted)).append
    (.clause " group by " .groupBy (partitionItems_headed grouped))).append
    (restriction_headed .having " having " having)).append
    (.clause " order by " .orderBy (sortItems_headed sorted))).append
    (offsetFetch_headed offset fetch)).append locks

/-- A query has its head at its beginning. -/
theorem query_headed {nested : Query} (visited : ∀ node ∈ nested.visits, node.Headed config root) :
    (Node.query nested).Headed config root := by
  intro scope previous places goes
  have rest := queryRest_headed visited
  simp only [Query.visits, List.forall_mem_append] at visited
  have clause := (selectClause_headed places goes visited.1.1.1.1).within Iff.rfl (some .select)
  rw [query_parts] at rest
  rw [query_inScope, query_parts, queryInScope_eq, Fragment.marks_append]
  split
  · rw [List.append_nil]
    exact clause
  · exact clause.append rest

theorem joins_headed {joined : List Join} (headed : ∀ node ∈ joined.flatMap Join.visits, node.Headed config root) :
    Headed config root (joins ⟨.spanner, config⟩ joined) := by
  induction joined with
  | nil => exact .nil
  | cons j rest ih =>
    simp only [List.flatMap_cons, Join.visits, List.cons_append, List.forall_mem_cons, List.forall_mem_append] at headed
    obtain ⟨right, on, others⟩ := headed
    have table : Headed config root (table ⟨.spanner, config⟩ j.table) := right
    have condition := condition_headed (fun _ own => own.behind " on ") on
    rw [joins_cons]
    exact ((table.behind j.kind.text).append condition).append (ih others)

theorem group_headed {from_ : TableGroup} (headed : ∀ node ∈ from_.visits, node.Headed config root) :
    (Node.group from_).Headed config root := by
  obtain ⟨primary, joined⟩ := List.forall_mem_cons.mp headed
  have table : Headed config root (table ⟨.spanner, config⟩ from_.primary) := primary
  exact table.append (joins_headed joined)

theorem derivedAlias_headed (table : DerivedTable) : Headed config root (Spanner.derivedAlias table) := by
  obtain ⟨source, aliasName, columns, lateral⟩ := table
  cases source with
  | query nested => exact aliasText_headed aliasName
  | function call =>
    match columns with
    | [] => exact aliasText_headed aliasName
    | [column] =>
      show Headed config root (if call.name.toLower = "unnest" then _ else _)
      split
      · exact aliasText_headed column
      · exact .fail _
    | _ :: _ :: _ => exact .fail _

/-- The query of a derived table has the scope of the table: in parentheses it is not correlated, and as an array
it is. -/
theorem derivedQuery_headed {nested : Query} {aliasName : String} {columns : List String} {lateral : Bool}
    (own : (Node.query nested).Headed config root) (places : root.Places nested ⟨lateral, columns⟩) :
    (Node.table (.derived ⟨.query nested, aliasName, columns, lateral⟩)).Headed config root := by
  cases lateral with
  | false =>
    have renamed : Headed config root ((query ⟨.spanner, config⟩ nested).renamed nested columns) := by
      unfold RenderedQuery.renamed
      split
      · exact .fail _
      · exact parens_headed own places
    have part : Headed config root (queryPart ⟨.spanner, config⟩ nested (query ⟨.spanner, config⟩ nested) columns) :=
      .offered .queryPart (by decide) renamed
    have title : Headed config root (derivedAlias ⟨.spanner, config⟩ ⟨.query nested, aliasName, columns, false⟩) :=
      .offered .derivedAlias (by decide) (aliasText_headed aliasName)
    exact .standard .derivedTable (by decide) ((Headed.nil.append part).append title)
  | true =>
    have array := Headed.opened (own _ (some Mark.unnesting) places ⟨fun _ => rfl, fun _ => rfl⟩)
    show Headed config root (.offer .derivedTable (Spanner.derivedTable ⟨.query nested, aliasName, columns, true⟩
      (.query nested (query ⟨.spanner, config⟩ nested))) _)
    cases refused : nested.namesRefused? columns with
    | some cause =>
      simp only [Spanner.derivedTable, refused, if_true]
      exact .offered .derivedTable (by decide) (.fail cause)
    | none =>
      simp only [Spanner.derivedTable, refused, if_true]
      exact .offered .derivedTable (by decide) ((array.ahead "))").append (aliasText_headed aliasName))

theorem table_headed {from_ : TableRef} (within : root.Within (.table from_))
    (headed : ∀ node ∈ from_.nodes, node.Headed config root) : (Node.table from_).Headed config root := by
  match from_ with
  | .named ⟨table, aliasName⟩ =>
    have written : Headed config root (.table table) := (Headed.text table).append (.mark rfl)
    exact written.append (.ifSome fun name _ => aliasText_headed name)
  | .derived ⟨.query nested, aliasName, columns, lateral⟩ =>
    exact derivedQuery_headed (headed (.query nested) (.head _)) ⟨_, within, .head _, rfl⟩
  | .derived ⟨.function call, aliasName, columns, lateral⟩ =>
    have rows := function_headed headed
    have title (lateral : Bool) :
        Headed config root (Spanner.derivedAlias ⟨.function call, aliasName, columns, lateral⟩) :=
      derivedAlias_headed _
    cases lateral with
    | false =>
      exact .standard .derivedTable nofun
        ((Headed.nil.append rows).append (.offered .derivedAlias nofun (title false)))
    | true => exact .offered .derivedTable nofun (rows.append (title true))

theorem compare_headed {left right : Fragment} (op : ComparisonOp) (l : Headed config root left)
    (r : Headed config root right) : Headed config root (RowValue.compare left op right) :=
  (l.ahead op.spacedText).append r

theorem pairwise_headed {left right : List Fragment} (op : ComparisonOp)
    (l : ∀ fragment ∈ left, Headed config root fragment) (r : ∀ fragment ∈ right, Headed config root fragment) :
    ∀ fragment ∈ RowValue.pairwise op left right, Headed config root fragment := by
  intro fragment mem
  rw [RowValue.pairwise, ← List.map_uncurry_zip_eq_zipWith] at mem
  obtain ⟨⟨first, second⟩, both, rfl⟩ := List.mem_map.mp mem
  obtain ⟨onLeft, onRight⟩ := List.of_mem_zip both
  exact compare_headed op (l first onLeft) (r second onRight)

theorem lexicographic_headed (op : ComparisonOp) (ranges : Bool) {left right : List Fragment}
    (l : ∀ fragment ∈ left, Headed config root fragment) (r : ∀ fragment ∈ right, Headed config root fragment) :
    Headed config root (RowValue.lexicographic op ranges left right) := by
  fun_induction RowValue.lexicographic op ranges left right with
  | case1 first second others => exact compare_headed op (l _ (.head _)) (r _ (.head _))
  | case2 first ls second rs _ rest _ ih =>
    obtain ⟨head, l⟩ := List.forall_mem_cons.mp l
    obtain ⟨head', r⟩ := List.forall_mem_cons.mp r
    have level := ((compare_headed op.strict head head').ahead " or ").append (ih l r)
    exact ((compare_headed op.inclusive head head').ahead " and ").append level.parens
  | case3 first ls second rs _ rest _ ih =>
    obtain ⟨head, l⟩ := List.forall_mem_cons.mp l
    obtain ⟨head', r⟩ := List.forall_mem_cons.mp r
    have level := ((((compare_headed op.strict head head').ahead " or ").append
      (compare_headed .eq head head')).ahead " and ")
    refine level.append ?_
    split
    · exact (ih l r).parens
    · exact ih l r
  | case4 => exact .nil

theorem rowComparison_headed (op : ComparisonOp) {left right : List Fragment}
    (l : ∀ fragment ∈ left, Headed config root fragment) (r : ∀ fragment ∈ right, Headed config root fragment) :
    Headed config root (rowComparison ⟨.spanner, config⟩ left right op) := by
  have pairs (op : ComparisonOp) (separator : String) :
      Headed config root (.parens (.separated separator (RowValue.pairwise op left right))) :=
    (Headed.separated separator (pairwise_headed op l r)).parens
  refine .offered .rowComparison nofun ?_
  unfold RowValue.expand
  split
  · exact .fail _
  · split
    · exact compare_headed op (l _ (.head _)) (r _ (.head _))
    · cases op with
      | eq => exact pairs .eq " and "
      | ne => exact pairs .ne " or "
      | lt | lte | gt | gte => exact (lexicographic_headed _ true l r).parens
      | distinctFrom | notDistinctFrom => exact .fail .distinctRow
    · exact .fail .emptyRow

/-- An operand without the parentheses of a row. -/
theorem selected_headed {e : Expr} (own : (Node.expr e).Headed config root)
    (items : ∀ node ∈ e.nodes, node.Headed config root) :
    Headed config root (operand ⟨.spanner, config⟩ e).selected := by
  cases e with
  | tuple list => exact .separated "," (exprs_headed items)
  | star | literal | column | parameter | arithmetic | function | window | subquery | summarization => exact own

theorem denied_headed (negated : Bool) (words : String) :
    Headed config root (.onlyIf negated (.text "not ") ++ .text words) :=
  (Headed.onlyIf negated (.text "not ")).ahead words

theorem intersection_headed {left right : Operand} (negated : Bool) (l : Headed config root left.selected)
    (r : Headed config root right.selected) : Headed config root (RowValue.intersection left negated right) :=
  ((((denied_headed negated "exists (select ").append l).ahead " intersect select ").append r).ahead ")"

/-- An existence test takes a query apart, and writes no select clause of it. -/
theorem existence_headed {row : List Expr} {nested : Query} (op : ComparisonOp) (negated : Bool)
    (core : ∀ node ∈ nested.core, node.Headed config root)
    (selected : ∀ node ∈ nested.selections.map (Node.expr ·.expr), node.Headed config root)
    (items : ∀ node ∈ row.map Node.expr, node.Headed config root) :
    Headed config root (RowValue.existence (rowComparison ⟨.spanner, config⟩) (exprs ⟨.spanner, config⟩ row)
      (query ⟨.spanner, config⟩ nested).parts op negated) := by
  simp only [Query.core, List.forall_mem_append] at core
  obtain ⟨⟨⟨sources, restricted⟩, grouped⟩, having⟩ := core
  have columns : ∀ fragment ∈ (selectionList ⟨.spanner, config⟩ nested.selections).map Prod.fst,
      Headed config root fragment := by
    rw [selectionList_fst]
    exact List.forall_mem_map.mpr fun selection mem => selected _ (List.mem_map_of_mem mem)
  have compared := rowComparison_headed op.invert columns (exprs_headed items)
  have guarded {restriction : Option Predicate}
      (visited : ∀ node ∈ Predicate.visited restriction, node.Headed config root) :
      Headed config root (.ifSome (condition ⟨.spanner, config⟩ restriction) fun fragment =>
        .text "(" ++ fragment ++ .text ") and ") :=
    condition_headed (fun _ own => (own.behind "(").ahead ") and ") visited
  have listed := (Headed.separated "," (groups_headed sources)).behind " from "
  have head := (denied_headed negated "exists (select 1").append
    (.onlyIf (!(groups ⟨.spanner, config⟩ nested.sources).isEmpty) listed)
  have groups := ((restriction_headed .restriction " where " restricted).append
    (.clause " group by " .groupBy (partitionItems_headed grouped))).ahead " having "
  simp only [RowValue.existence, query_parts]
  split
  · exact .fail .limitedSubquery
  · split
    · exact (((head.append groups).append (guarded having)).append compared).ahead ")"
    · exact (((head.ahead " where ").append (guarded restricted)).append compared).ahead ")"

theorem form_headed {left right : Expr} {op : ComparisonOp}
    (within : root.Within (.predicate (.comparison left op right)))
    (deep : ∀ inner, (Node.predicate (.comparison left op right)).Below inner → inner.Headed config root) :
    Headed config root ((Spanner.ComparisonForm.of left op right).fragment ⟨.spanner, config⟩) := by
  have onLeft : (Node.predicate (.comparison left op right)).Below (.expr left) := .single (.head _)
  have onRight : (Node.predicate (.comparison left op right)).Below (.expr right) := .single (.tail _ (.head _))
  have first : Headed config root (expr ⟨.spanner, config⟩ left) := deep (.expr left) onLeft
  have visited (node : Node) (mem : node ∈ (Spanner.ComparisonForm.of left op right).visits) :
      node.Headed config root :=
    deep node (Node.below_of_comparison mem)
  revert visited
  refine Spanner.ComparisonForm.of_cases left op right
    (motive := fun form => (∀ node ∈ form.visits, node.Headed config root) →
      Headed config root (form.fragment ⟨.spanner, config⟩)) ?intersection ?membership ?existence ?rows ?native
  case intersection =>
    intro _
    exact intersection_headed _ (selected_headed (deep _ onLeft) fun node mem => deep node (onLeft.tail mem))
      (selected_headed (deep _ onRight) fun node mem => deep node (onRight.tail mem))
  case membership =>
    rintro quantifier nested rfl visited
    have rows := subquery_headed (visited (.query nested) (.tail _ (.head _)))
      ⟨_, within.trans onRight.to_reflTransGen, .head _, rfl⟩
    exact (first.ahead _).append rows
  case existence =>
    rintro row quantifier nested rfl rfl _ _ visited
    simp only [Spanner.ComparisonForm.visits, List.forall_mem_append] at visited
    obtain ⟨⟨core, selected⟩, items⟩ := visited
    exact existence_headed _ _ core selected items
  case rows =>
    rintro row others rfl rfl _ visited
    obtain ⟨ls, rs⟩ := List.forall_mem_append.mp visited
    exact rowComparison_headed op (exprs_headed ls) (exprs_headed rs)
  case native =>
    intro _
    exact compare_headed op first (deep (.expr right) onRight)

theorem unescaped_headed {matched pattern : Fragment} (caseSensitive negated : Bool)
    (first : Headed config root matched) (second : Headed config root pattern) :
    Headed config root (Pattern.unescaped config caseSensitive negated matched pattern) := by
  have denial : Headed config root (.onlyIf negated (.text " not")) := .onlyIf negated (.text _)
  have lowered {fragment : Fragment} (own : Headed config root fragment) := own.parens.behind config.lowercaseFunction
  unfold Pattern.unescaped
  split
  · exact (((first.append denial).ahead _).append second).append .nil
  · exact (((((Headed.text _).append first.parens).append denial).ahead " like ").ahead _).append
      second.parens |>.append .nil

theorem like_headed {node : Like} (first : (Node.expr node.expr).Headed config root)
    (second : (Node.expr node.pattern).Headed config root) : (Node.predicate (.like node)).Headed config root := by
  obtain ⟨matched, pattern, escape, caseSensitive, negated⟩ := node
  have plainly (caseSensitive : Bool) := unescaped_headed caseSensitive negated first second
  show Headed config root
    (.offer .like (Spanner.like config ⟨matched, pattern, escape, caseSensitive, negated⟩ _ _) _)
  cases escape with
  | none =>
    cases caseSensitive with
    | true => exact .standard .like nofun (plainly true)
    | false => exact .offered .like nofun (plainly false)
  | some escape =>
    refine .offered .like nofun ?_
    split
    · exact .fail .escapeNotCharacter
    · split
      · exact plainly caseSensitive
      · split
        · exact .fail _
        · exact unescaped_headed caseSensitive negated first (.mark rfl)

theorem predicate_headed {p : Predicate} (within : root.Within (.predicate p))
    (deep : ∀ inner, (Node.predicate p).Below inner → inner.Headed config root) :
    (Node.predicate p).Headed config root := by
  have own (e : Expr) (mem : .expr e ∈ p.nodes) : Headed config root (expr ⟨.spanner, config⟩ e) :=
    deep (.expr e) (.single mem)
  have rows (nested : Query) (mem : .query nested ∈ p.nodes) :
      Headed config root (query ⟨.spanner, config⟩ nested).subquery :=
    subquery_headed (deep (.query nested) (.single mem)) ⟨_, within, mem, rfl⟩
  cases p with
  | comparison left op right =>
    show Headed config root (.offer .comparison (some (Spanner.comparison _ _ _ _)) _)
    rw [Spanner.ComparisonForm.comparison_eq]
    exact .offered .comparison nofun (form_headed within deep)
  | like node => exact like_headed (own node.expr (.head _)) (own node.pattern (.tail _ (.head _)))
  | inList test values negated =>
    have listed := exprs_headed fun node (mem : node ∈ values.map Node.expr) => deep node (.single (.tail _ mem))
    show Headed config root (inList _ _ negated)
    unfold inList
    split
    · exact .text _
    · exact ((own test (.head _)).ahead _).append (Headed.separated "," listed).parens
  | inSubquery test nested negated => exact ((own test (.head _)).ahead _).append (rows nested (.tail _ (.head _)))
  | inArray test array =>
    exact .offered .inArray nofun (((own test (.head _)).ahead _).append (own array (.tail _ (.head _))).parens)
  | nullness test negated => exact (own test (.head _)).ahead _
  | between test low high negated =>
    exact ((((own test (.head _)).ahead _).append (own low (.tail _ (.head _)))).ahead _).append
      (own high (.tail _ (.tail _ (.head _))))
  | existence nested negated =>
    exact (denied_headed negated "exists ").append (rows nested (.head _))
  | junction kind parts =>
    show Headed config root (.separated kind.separator (junctionParts ⟨.spanner, config⟩ parts))
    rw [junctionParts_eq_map]
    refine .separated kind.separator (List.forall_mem_map.mpr fun part mem => ?_)
    have part_headed : Headed config root (predicate ⟨.spanner, config⟩ part) :=
      deep (.predicate part) (.single (List.mem_map_of_mem (List.mem_filter.mp mem).1))
    split
    · exact part_headed.parens
    · exact part_headed
  | negation inner =>
    have inner_headed : Headed config root (predicate ⟨.spanner, config⟩ inner) :=
      deep (.predicate inner) (.single (.head _))
    exact inner_headed.parens.behind "not "

theorem dmlTarget_headed (clause : Option Clause) (table : NamedTable) :
    Headed config root (dmlTarget ⟨.spanner, config⟩ clause table) := by
  have name : Headed config root (.table table.table) := (Headed.text table.table).append (.mark rfl)
  exact .offered .dmlTarget nofun (name.append (.onlyIf _ (.ifSome fun name _ => aliasText_headed name)))

theorem returning_headed (columns : List ColumnRef) : Headed config root (returning columns) := by
  have listed : Headed config root (.separated "," (columns.map (·.fragment))) :=
    .separated "," (List.forall_mem_map.mpr fun column _ => column_headed column)
  exact .onlyIf _ ((listed.behind " returning ").inClause .returning)

theorem assignments_headed {items : List Assignment}
    (headed : ∀ node ∈ items.map (Node.expr ·.value), node.Headed config root) :
    Headed config root (assignments ⟨.spanner, config⟩ items) :=
  .separated "," (List.forall_mem_map.mpr fun item mem =>
    ((Headed.text item.column.name).ahead "=").append (headed _ (List.mem_map_of_mem mem)))

/-- The rows of an insertion stand behind a space. -/
theorem insertSource_headed {source : InsertSource} (headed : ∀ node ∈ source.nodes, node.Headed config root)
    (places : ∀ nested, .query nested ∈ source.nodes → root.Places nested {}) :
    Headed config root (.text " " ++ insertSource ⟨.spanner, config⟩ source) := by
  cases source with
  | query nested =>
    exact .opened (headed (.query nested) (.head _) {} (some (.text " ")) (places nested (.head _)) (by decide))
  | values rows =>
    show Headed config root (.text " " ++ if rows.isEmpty then _ else _)
    split
    · exact (Headed.text "default values").behind " "
    · have row (row : List Expr) (mem : row ∈ rows) :
          Headed config root (.parens (.separated "," (exprs ⟨.spanner, config⟩ row))) :=
        (Headed.separated "," (exprs_headed fun node inside =>
          headed node (List.mem_flatMap.mpr ⟨row, mem, inside⟩))).parens
      exact (((Headed.separated "," (List.forall_mem_map.mpr row)).behind "values ").inClause .values).behind " "

/-- A change without a restriction gets one that always holds. -/
theorem changed_headed {head standard columns : Fragment} {restriction : Option Predicate} (construct : Construct)
    (other : construct ≠ .selectClause) (first : Headed config root head) (last : Headed config root columns)
    (otherwise : Headed config root standard) :
    Headed config root (.offer construct (Spanner.unrestricted restriction head columns) standard) := by
  unfold Spanner.unrestricted
  split
  · exact .standard construct other otherwise
  · exact .offered construct other ((first.ahead " where true").append last)

theorem insert_headed {change : Insert} (within : root.Within (.statement (.insert change)))
    (deep : ∀ inner, (Node.statement (.insert change)).Below inner → inner.Headed config root) :
    Headed config root (insert ⟨.spanner, config⟩ change) := by
  obtain ⟨table, columns, source, conflict, returned⟩ := change
  have rows : Headed config root (.text " " ++ insertSource ⟨.spanner, config⟩ source) :=
    insertSource_headed (fun node mem => deep node (.single (List.mem_append_left _ mem))) fun nested mem =>
      ⟨_, within, List.mem_append_left _ mem, rfl⟩
  have target : Headed config root (dmlTarget ⟨.spanner, config⟩ (some .insert) table) := dmlTarget_headed _ table
  have names : Headed config root (.parens (.names columns)) := (Headed.text _).parens
  have back : Headed config root (returning returned) := returning_headed returned
  cases conflict with
  | none =>
    have opening := ((target.behind "insert into ").append (.onlyIf (!columns.isEmpty) (names.behind " "))).inClause
      .insert
    have written := ((opening.append rows).append .nil).append back
    rw [← Fragment.append_assoc] at written
    exact written
  | some conflict =>
    refine .offered .insertWithConflict nofun ?_
    unfold Spanner.insertWithConflict
    split
    · exact .fail _
    · have opening := ((target.behind
        (if conflict.action.isUpdate then "insert or update into " else "insert or ignore into ")).append
        (.onlyIf (!columns.isEmpty) names)).inClause .insert
      have written := (opening.append rows).append back
      -- Here the space is the last of the clause.
      have space : Fragment.inClause .insert (.text " ") = .text " " := rfl
      rw [← Fragment.append_assoc, ← space, ← Fragment.inClause_append] at written
      exact written

/-- Every node of a statement is headed. -/
theorem node_headed (config : Config) {root node : Node} (within : root.Within node) : node.Headed config root := by
  induction node using Node.induction with
  | step node ih =>
    have deep (inner : Node) (under : node.Below inner) : inner.Headed config root :=
      ih inner under (within.trans under.to_reflTransGen)
    have children (inner : Node) (mem : inner ∈ node.children) : inner.Headed config root := deep inner (.single mem)
    have visited (inner : Node) (mem : inner ∈ node.visits .spanner) : inner.Headed config root :=
      deep inner (Node.below_of_mem_visits mem)
    cases node with
    | query nested => exact query_headed visited
    | group from_ => exact group_headed visited
    | table from_ => exact table_headed within children
    | predicate p => exact predicate_headed within deep
    | expr e => exact expr_headed within children
    | item e => exact item_headed (children _ (.head _))
    | statement change =>
      cases change with
      | select nested => exact children (.query nested) (.head _) {} none ⟨_, within, .head _, rfl⟩ (by decide)
      | insert change => exact insert_headed within deep none
      | update change =>
        obtain ⟨values, guarded⟩ := List.forall_mem_append.mp visited
        have head : Headed config root (updateClause ⟨.spanner, config⟩ change.target) :=
          ((dmlTarget_headed _ change.target).behind "update ").inClause .update
        have items : Headed config root (setClause ⟨.spanner, config⟩ change.assignments) :=
          ((assignments_headed values).behind " set ").inClause .assignments
        have back : Headed config root (returning change.returning) := returning_headed _
        have standard := ((head.append items).append (restriction_headed .restriction " where " guarded)).append back
        exact changed_headed .update nofun (head.append items) back standard none
      | delete change =>
        have head : Headed config root (deleteClause ⟨.spanner, config⟩ change.target) :=
          ((dmlTarget_headed _ change.target).behind "delete from ").inClause .delete
        have back : Headed config root (returning change.returning) := returning_headed _
        have standard := (head.append (restriction_headed .restriction " where " visited)).append back
        exact changed_headed .delete nofun head back standard none

end Render

/-- Only the query of a lateral table has a correlated scope. -/
theorem Node.Places.lateral {root : Node} {nested : Query} {scope : Scope} (places : root.Places nested scope)
    (correlated : scope.correlated = true) :
    ∃ table : DerivedTable, root.Within (.table (.derived table)) ∧ table.source = .query nested ∧
      table.lateral = true := by
  obtain ⟨outer, within, mem, rfl⟩ := places
  match outer with
  | .table (.derived ⟨.query rows, aliasName, names, lateral⟩) =>
    cases List.mem_singleton.mp mem
    exact ⟨_, within, rfl, correlated⟩
  | .table (.derived ⟨.function call, aliasName, names, lateral⟩) =>
    obtain ⟨argument, _, same⟩ := List.mem_map.mp mem
    contradiction
  | .table (.named _) | .statement _ | .query _ | .group _ | .predicate _ | .expr _ | .item _ => contradiction

namespace Session

/-- A scope acts on the head of its own query only. In all scopes a query fails alike, adds the same but text, and has
the same text behind its select clause; there Spanner adds two words for a correlated scope, and the selections have
the aliases of the scope before their own. So the columns of a derived query have the names that they are given, and
wherever Spanner begins a query of a statement, it does so in the scope of the place where the query stands. -/
theorem query_scoped (session : Session) :
    (∀ (nested : Query) (first second : Scope),
      (session.write (.query nested first)).2 = (session.write (.query nested second)).2 ∧
      (session.write (.query nested first)).1.finish.bindings =
        (session.write (.query nested second)).1.finish.bindings ∧
      (session.write (.query nested first)).1.finish.tables =
        (session.write (.query nested second)).1.finish.tables ∧
      (session.write (.query nested first)).1.finish.lock = (session.write (.query nested second)).1.finish.lock) ∧
    (∀ nested : Query, ∃ rest, ∀ scope, session.textOf (.query nested scope) =
      session.textOf (.selectClause nested.distinct nested.selections scope) ++ rest) ∧
    (∀ (distinct : Bool) (list : List Selection) (scope : Scope),
      session.textOf (.selectClause distinct list scope) =
        "select " ++ (if session.target.dialect = .spanner ∧ scope.correlated = true then "as struct " else "")
          ++ (if distinct then "distinct " else "") ++ session.textOf (.selections list scope) ∧
      session.textOf (.selections list scope) =
        session.textOf (.selections (Selection.withAliases list scope.aliases) {}) ∧
      (list ≠ [] → (∀ selection ∈ list, (session.write (.expr selection.expr)).2 = none) →
        session.textOf (.selections list scope) = ",".intercalate (list.mapIdx fun i selection =>
          session.textOf (.expr selection.expr)
            ++ (scope.aliases[i]?.or selection.aliasName).elim "" fun name => " " ++ name))) ∧
    (session.target.dialect = .spanner →
      (∀ (table : DerivedTable) (nested : Query), table.source = .query nested → table.columnNames ≠ [] →
        (session.write (.table (.derived table))).2 = none →
        nested.selections.length = table.columnNames.length ∧
        session.textOf (.table (.derived table)) =
          (if table.lateral then "unnest(array(" else "(")
            ++ session.textOf (.query nested ⟨table.lateral, table.columnNames⟩)
            ++ (if table.lateral then "))" else ")") ++ " " ++ table.aliasName ∧
        session.textOf (.selections nested.selections ⟨table.lateral, table.columnNames⟩) =
          ",".intercalate (List.zipWith (fun selection name =>
            session.textOf (.expr selection.expr) ++ " " ++ name) nested.selections table.columnNames)) ∧
      ∀ (change : Statement) (before after : List Mark) (clause : Option Clause) (outcome : Outcome),
        (Render.statement session.target change).marks = before ++ .offer .selectClause clause outcome :: after →
        ∃ nested scope rest, (Node.statement change).Places nested scope ∧
          Mark.sqlText session.target.config after =
            session.textOf (.selectClause nested.distinct nested.selections scope) ++ rest ∧
          (scope.correlated = true ↔ before.getLast? = some Mark.unnesting) ∧
          (scope.correlated = true → ∃ table : DerivedTable,
            (Node.statement change).Within (.table (.derived table)) ∧ table.source = .query nested ∧
            table.lateral = true)) := by
  refine ⟨session.query_alike, session.query_rest, ?clause, fun spanner => ⟨?derived, ?heads⟩⟩
  case clause =>
    intro distinct list scope
    exact ⟨session.textOf_selectClause distinct list scope, session.textOf_withAliases list scope false,
      fun inhabited whole => session.textOf_forced scope whole inhabited⟩
  case derived =>
    intro table nested source named accepted
    obtain ⟨given, whole, written⟩ := session.derived_query spanner source accepted
    have same := Query.length_selections given named
    exact ⟨same, written, session.textOf_named (session.selections_whole whole) same named⟩
  case heads =>
    intro change before after clause outcome split
    obtain ⟨⟨dialect, config⟩, clauses, marks⟩ := session
    obtain rfl : dialect = .spanner := spanner
    have headed : (Node.statement change).Headed config (.statement change) := Render.node_headed config .refl
    obtain ⟨nested, scope, rest, places, goes, written⟩ := Mark.Headed.of_append headed split
    rw [Option.or_none] at goes
    exact ⟨nested, scope, rest, places, written.trans (by rw [textOf_eq, Piece.fragment]), goes, places.lateral⟩

/-- A query with a nested one, as the source of a lateral table: it is correlated, and the one in it is not. -/
theorem query_scoped_lateral :
    let session : Session := ⟨⟨.spanner, .spanner⟩, [], []⟩
    let inner : Query := { Query.empty with sources := [⟨.named ⟨"v", none⟩, []⟩] }
    let nested : Query := { Query.empty with
      selections := [⟨.column { name := "a" }, none⟩]
      sources := [⟨.named ⟨"u", none⟩, []⟩]
      restriction := some (.existence inner false) }
    let table : DerivedTable := ⟨.query nested, "d", ["c"], true⟩
    let change : Statement := .select { Query.empty with sources := [⟨.derived table, []⟩] }
    let marks := (Render.statement session.target change).marks
    session.target.dialect = .spanner ∧ table.source = .query nested ∧ table.columnNames ≠ [] ∧
      (session.write (.table (.derived table))).2 = none ∧
      session.textOf (.table (.derived table)) =
        "unnest(array(select as struct a c from u where exists (select * from v))) d" ∧
      (∀ selection ∈ nested.selections, (session.write (.expr selection.expr)).2 = none) ∧
      session.textOf (.selections nested.selections {}) = "a" ∧
      nested.selections.length = table.columnNames.length ∧
      marks = marks.take 18 ++ .offer .selectClause (some .select) .rendered :: marks.drop 19 ∧
      (marks.take 18).getLast? = some (.text "(") ∧ Mark.sqlText .spanner (marks.drop 19) = "select * from v))) d" ∧
      ∃ query scope rest, (Node.statement change).Places query scope ∧
        Mark.sqlText .spanner (marks.drop 19) =
          session.textOf (.selectClause query.distinct query.selections scope) ++ rest ∧
        scope.correlated = false := by
  intro session inner nested table change marks
  have source : table.source = .query nested := rfl
  have named : table.columnNames ≠ [] := List.cons_ne_nil _ _
  have accepted : (session.write (.table (.derived table))).2 = none := rfl
  have whole : ∀ selection ∈ nested.selections, (session.write (.expr selection.expr)).2 = none := by
    rintro selection (_ | ⟨_, mem⟩)
    · rfl
    · contradiction
  have split : marks = marks.take 18 ++ .offer .selectClause (some .select) .rendered :: marks.drop 19 := by
    decide +kernel
  obtain ⟨_, _, clause, spanner⟩ := query_scoped session
  have list := (clause false nested.selections {}).2.2 (List.cons_ne_nil _ _) whole
  obtain ⟨derived, heads⟩ := spanner rfl
  obtain ⟨query, scope, rest, places, written, goes, _⟩ := heads change _ _ _ _ split
  have plain : scope.correlated = false :=
    eq_false_of_ne_true fun correlated => absurd (goes.mp correlated) (by decide +kernel)
  exact ⟨rfl, source, named, accepted, by decide +kernel, whole, list.trans (by decide +kernel),
    (derived table nested source named accepted).1, split, by decide +kernel, by decide +kernel, query, scope, rest,
    places, written, plain⟩

end Session

end PortableSql
