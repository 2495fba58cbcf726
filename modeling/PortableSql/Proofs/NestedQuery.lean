import PortableSql.Proofs.Nesting

/-! Expressions, queries and tables nest if the nodes that writing them visits do.

A node may be written in any scope with admitted aliases (`Node.Nested`). What a dialect does in a way of its own
nests like the standard rendering; only a query has clause words outside of parentheses.
-/

set_option autoImplicit false

namespace PortableSql

namespace Node

/-- Whether a node has clause words outside of parentheses. -/
def hasClauses : Node → Bool
  | .statement _ | .query _ => true
  | .group _ | .table _ | .predicate _ | .expr _ | .item _ => false

/-- The word for a grouping of groupings. -/
def summary : Node → List String
  | .expr (.summarization kind _) => [kind.text]
  | _ => []

/-- Whether what a node adds nests, in every scope with admitted aliases. -/
def Nested (target : Target) (Name : String → Prop) (node : Node) : Prop :=
  ∀ scope : Scope, (∀ name ∈ scope.aliases, Name name) →
    Nests target Name node.hasClauses 0 (node.fragment target scope) 0

theorem Nested.alone {target : Target} {Name : String → Prop} {node : Node} (nested : node.Nested target Name) :
    Nests target Name node.hasClauses 0 (node.fragment target {}) 0 :=
  nested {} fun _ mem => absurd mem List.not_mem_nil

end Node

namespace Render

variable {target : Target} {Name : String → Prop}

theorem exprs_nested {items : List Expr} (nested : ∀ node ∈ items.map Node.expr, node.Nested target Name) :
    ∀ fragment ∈ exprs target items, Nests target Name false 0 fragment 0 := by
  rw [exprs_eq_map]
  exact List.forall_mem_map.mpr fun e mem => (nested _ (List.mem_map_of_mem mem)).alone

theorem functionOf_nested {name : String} {args : List Fragment} (named : Nests target Name false 0 (.text name) 0)
    (nested : ∀ fragment ∈ args, Nests target Name false 0 fragment 0) :
    Nests target Name false 0 (functionOf name args) 0 :=
  named.append (Nests.listed nested).parens

theorem function_nested {call : FunctionCall} (named : Name call.name)
    (nested : ∀ node ∈ call.nodes, node.Nested target Name) :
    Nests target Name false 0 (function target call) 0 := by
  obtain ⟨name, args, returnType⟩ := call
  exact functionOf_nested (.name named) (exprs_nested nested)

theorem column_nested {column : ColumnRef} (named : ∀ name ∈ column.names, Name name) :
    Nests target Name false 0 column.fragment 0 := by
  obtain ⟨qualifier, name, sqlType⟩ := column
  have own : Nests target Name false 0 (.text name) 0 := .name (named name (List.mem_append_right _ (.head _)))
  cases qualifier with
  | none => exact (Nests.nil false 0).append own
  | some qualifier => exact ((Nests.name (named qualifier (.head _))).ahead (by decide)).append own

theorem aliasText_nested {aliasName : String} (named : Name aliasName) :
    Nests target Name false 0 (.aliasText aliasName) 0 :=
  (Nests.name named).behind (by decide)

theorem arithmetic_nested (left : Expr) (op : ArithmeticOp) (right : Expr) {l r : Fragment}
    (first : Nests target Name false 0 l 0) (second : Nests target Name false 0 r 0) :
    Nests target Name false 0 (arithmetic target left op right l r) 0 := by
  have standard : Nests target Name false 0 (standardArithmetic l op r) 0 := by
    have sign : Leads true 0 op.text 0 := by cases op <;> decide
    unfold standardArithmetic
    split
    · exact functionOf_nested (.words (by decide)) (by simp [first, second])
    · exact ((first.loosen.ahead sign).append second.loosen).parens
  obtain ⟨dialect, config⟩ := target
  cases dialect with
  | generic => exact standard.standard .arithmetic
  | spanner =>
    show Nests _ Name false 0 (.offer .arithmetic (Spanner.arithmetic left op right l r) _) 0
    unfold Spanner.arithmetic
    split
    · exact Nests.offered .arithmetic
        (((first.loosen.ahead (by decide)).append second.loosen).parens.behind (by decide))
    · exact standard.standard .arithmetic

theorem sortItem_nested {fragment : Fragment} (own : Nests target Name false 0 fragment 0) (descending : Bool)
    (nulls : Option NullPrecedence) : Nests target Name false 0 (sortItem fragment descending nulls) 0 := by
  have order : Nests target Name false 0 (.onlyIf descending (.text " desc")) 0 :=
    .onlyIf descending fun _ => .words (by decide)
  have precedence : Nests target Name false 0 (.ifSome nulls fun nulls => .text nulls.text) 0 :=
    .ifSome fun nulls _ => .words (by cases nulls <;> decide)
  exact (own.append order).append precedence

theorem window_nested {call : Fragment} {partitions sorts : List Fragment}
    (function : Nests target Name false 0 call 0)
    (partitioned : ∀ fragment ∈ partitions, Nests target Name false 0 fragment 0)
    (sorted : ∀ fragment ∈ sorts, Nests target Name false 0 fragment 0) :
    Nests target Name false 0 (window call partitions sorts) 0 := by
  have gap : Nests target Name true 0 (.onlyIf (!partitions.isEmpty && !sorts.isEmpty) (.text " ")) 0 :=
    .onlyIf _ fun _ => .words (by decide)
  exact ((((function.ahead (by decide : Leads false 0 " over (" 1)).append
    (Nests.clause (by decide) .partition partitioned).deeper).append gap.deeper).append
    (Nests.clause (by decide) .orderBy sorted).deeper).ahead (by decide)

theorem partitionItems_nested {items : List Expr} (nested : ∀ node ∈ items.map Node.item, node.Nested target Name) :
    ∀ fragment ∈ partitionItems target items, Nests target Name false 0 fragment 0 := by
  rw [partitionItems_eq_map]
  exact List.forall_mem_map.mpr fun e mem => (nested _ (List.mem_map_of_mem mem)).alone

theorem sortItems_nested {items : List SortItem}
    (nested : ∀ node ∈ items.map (Node.expr ·.expr), node.Nested target Name) :
    ∀ fragment ∈ sortItems target items, Nests target Name false 0 fragment 0 := by
  rw [sortItems_eq_map]
  exact List.forall_mem_map.mpr fun item mem =>
    sortItem_nested (nested _ (List.mem_map_of_mem mem)).alone item.descending item.nulls

theorem groups_nested {sources : List TableGroup} (nested : ∀ node ∈ sources.map Node.group, node.Nested target Name) :
    ∀ fragment ∈ groups target sources, Nests target Name false 0 fragment 0 := by
  rw [groups_eq_map]
  exact List.forall_mem_map.mpr fun from_ mem => (nested _ (List.mem_map_of_mem mem)).alone

theorem subquery_nested {nested : Query} (own : (Node.query nested).Nested target Name) :
    Nests target Name false 0 (query target nested).subquery 0 :=
  own.alone.parens

theorem expr_nested {e : Expr} (double : Name (target.config.typeName .double))
    (named : ∀ name ∈ (Node.expr e).names ++ (Node.expr e).summary, Name name)
    (nested : ∀ node ∈ e.nodes, node.Nested target Name) : (Node.expr e).Nested target Name := by
  intro _ _
  cases e with
  | star => exact .words (by decide)
  | literal value => exact .value value double
  | column column => exact column_nested fun name mem => named name (List.mem_append_left _ mem)
  | parameter parameter => exact .placeholder parameter
  | arithmetic left op right =>
    exact arithmetic_nested left op right (nested (.expr left) (.head _)).alone
      (nested (.expr right) (.tail _ (.head _))).alone
  | function call => exact function_nested (named call.name (.head _)) nested
  | window call partitionBy orderBy =>
    simp only [Expr.nodes, List.forall_mem_append] at nested
    obtain ⟨⟨args, partitions⟩, sorts⟩ := nested
    exact window_nested (function_nested (named call.name (.head _)) args) (partitionItems_nested partitions)
      (sortItems_nested sorts)
  | tuple items => exact (Nests.listed (exprs_nested nested)).parens
  | subquery quantifier rows =>
    have own := subquery_nested (nested (.query rows) (.head _))
    cases quantifier with
    | one => exact own
    | any | every => exact own.behind (by decide)
  | summarization kind groupings =>
    exact functionOf_nested (.name (named kind.text (.head _))) (exprs_nested nested)

theorem item_nested {e : Expr} (nested : (Node.expr e).Nested target Name) : (Node.item e).Nested target Name := by
  intro _ _
  have own : Nests target Name false 0 (expr target e) 0 := nested.alone
  obtain ⟨dialect, config⟩ := target
  cases dialect with
  | generic =>
    cases e with
    | literal value => exact (Nests.words (by decide : Leads false 0 "()" 0)).standard .partitionItem
    | star | column | parameter | arithmetic | function | window | tuple | subquery | summarization =>
      exact own.standard .partitionItem
  | spanner =>
    cases e with
    | literal value => exact Nests.bucket.offered .partitionItem
    | summarization kind groupings => exact (Nests.fail false 0 (.summarization kind) 0).offered .partitionItem
    | star | column | parameter | arithmetic | function | window | tuple | subquery =>
      exact own.standard .partitionItem

/-- A condition that restricts something, with what is written around it. -/
theorem condition_nested {restriction : Option Predicate} {free : Bool} (around : Fragment → Fragment)
    (kept : ∀ fragment, Nests target Name false 0 fragment 0 → Nests target Name free 0 (around fragment) 0)
    (nested : ∀ node ∈ Predicate.visited restriction, node.Nested target Name) :
    Nests target Name free 0 (.ifSome (condition target restriction) around) 0 := by
  rw [condition_eq_map]
  unfold Predicate.visited at nested
  cases visited : Predicate.effective? restriction with
  | none => exact .nil free 0
  | some p =>
    rw [visited] at nested
    exact kept _ (nested (.predicate p) (.head _)).alone

theorem restriction_nested {restriction : Option Predicate} (clause : Clause) {keyword : String}
    (leads : Leads true 0 keyword 0) (nested : ∀ node ∈ Predicate.visited restriction, node.Nested target Name) :
    Nests target Name true 0 (RowValue.restriction clause keyword (condition target restriction)) 0 :=
  condition_nested _ (fun _ own => (own.loosen.behind leads).inClause clause) nested

theorem optional_nested {value : Option Expr} {free : Bool} {around : Fragment → Fragment}
    (kept : ∀ fragment, Nests target Name false 0 fragment 0 → Nests target Name free 0 (around fragment) 0)
    (nested : ∀ node ∈ value.toList.map Node.expr, node.Nested target Name) :
    Nests target Name free 0 (.ifSome (optional target value) around) 0 := by
  cases value with
  | none => exact .nil free 0
  | some e => exact kept _ (nested (.expr e) (.head _)).alone

theorem offsetFetch_nested {offset fetch : Option Expr}
    (first : ∀ node ∈ offset.toList.map Node.expr, node.Nested target Name)
    (second : ∀ node ∈ fetch.toList.map Node.expr, node.Nested target Name) :
    Nests target Name true 0 (offsetFetch target (optional target offset) (optional target fetch)) 0 := by
  have after (clause : Clause) {keyword : String} (leads : Leads true 0 keyword 0) {value : Option Expr}
      (nested : ∀ node ∈ value.toList.map Node.expr, node.Nested target Name) :
      Nests target Name true 0
        (.ifSome (optional target value) fun fragment => .inClause clause (.text keyword ++ fragment)) 0 :=
    optional_nested (fun _ own => (own.loosen.behind leads).inClause clause) nested
  have between (clause : Clause) {keyword ending : String} (leads : Leads true 0 keyword 0)
      (ends : Leads true 0 ending 0) {value : Option Expr}
      (nested : ∀ node ∈ value.toList.map Node.expr, node.Nested target Name) :
      Nests target Name true 0
        (.ifSome (optional target value) fun fragment =>
          .inClause clause (.text keyword ++ fragment ++ .text ending)) 0 :=
    optional_nested (fun _ own => ((own.loosen.behind leads).ahead ends).inClause clause) nested
  have limits := (after .fetch (by decide : Leads true 0 " limit " 0) second).append
    (after .offset (by decide : Leads true 0 " offset " 0) first)
  have standard := (between .offset (by decide : Leads true 0 " offset " 0) (by decide : Leads true 0 " rows" 0)
    first).append (between .fetch (by decide : Leads true 0 " fetch first " 0)
      (by decide : Leads true 0 " rows only" 0) second)
  obtain ⟨dialect, config⟩ := target
  cases dialect with
  | generic => exact standard.standard .offsetFetch
  | spanner => exact limits.offered .offsetFetch

theorem aliased_nested {list : List Selection} {aliases : List String} (forced : ∀ name ∈ aliases, Name name)
    (named : ∀ selection ∈ list, ∀ name ∈ selection.aliasName, Name name)
    (nested : ∀ node ∈ list.map (Node.expr ·.expr), node.Nested target Name) :
    ∀ fragment ∈ aliased (selectionList target list) aliases, Nests target Name false 0 fragment 0 := by
  rw [selectionList_eq_map]
  induction list generalizing aliases with
  | nil => exact fun _ mem => absurd mem List.not_mem_nil
  | cons selection list ih =>
    obtain ⟨own, others⟩ := List.forall_mem_cons.mp named
    obtain ⟨first, rest⟩ := List.forall_mem_cons.mp nested
    have selected : Nests target Name false 0 (expr target selection.expr) 0 := first.alone
    cases aliases with
    | nil =>
      have title : Nests target Name false 0 (.ifSome selection.aliasName .aliasText) 0 :=
        .ifSome fun name mem => aliasText_nested (own name mem)
      exact List.forall_mem_cons.mpr ⟨selected.append title, ih forced others rest⟩
    | cons aliasName aliases =>
      obtain ⟨title, forced⟩ := List.forall_mem_cons.mp forced
      exact List.forall_mem_cons.mpr ⟨selected.append (aliasText_nested title), ih forced others rest⟩

theorem selections_nested {list : List Selection} {scope : Scope} (forced : ∀ name ∈ scope.aliases, Name name)
    (named : ∀ selection ∈ list, ∀ name ∈ selection.aliasName, Name name)
    (nested : ∀ node ∈ list.map (Node.expr ·.expr), node.Nested target Name) :
    Nests target Name false 0 (selections scope (selectionList target list)) 0 := by
  unfold selections
  split
  · exact .words (by decide)
  · exact .listed (aliased_nested forced named nested)

theorem selectClause_nested {list : List (Fragment × Option String)} {scope : Scope} (distinct : Bool)
    (own : Nests target Name false 0 (selections scope list) 0) :
    Nests target Name true 0 (selectClause target distinct scope list) 0 := by
  have flag (condition : Bool) {words : String} (leads : Leads true 0 words 0) :
      Nests target Name true 0 (.onlyIf condition (.text words)) 0 :=
    .onlyIf condition fun _ => .words leads
  have opening : Nests target Name true 0 (.text "select ") 0 := .words (by decide)
  have distinctly := flag distinct (by decide : Leads true 0 "distinct " 0)
  have correlated := flag scope.correlated (by decide : Leads true 0 "as struct " 0)
  obtain ⟨dialect, config⟩ := target
  cases dialect with
  | generic => exact ((opening.append distinctly).append own.loosen).standard .selectClause
  | spanner => exact (((opening.append correlated).append distinctly).append own.loosen).offered .selectClause

theorem locking_nested (lock : LockOptions) : Nests target Name true 0 (locking target lock) 0 := by
  have left : target.dialect = .spanner → lockStrategy target lock = .none := by
    obtain ⟨dialect, config⟩ := target
    rintro rfl
    rfl
  have mode : Leads true 0 lock.mode.text 0 := by cases lock.mode <;> decide
  have wait : Leads true 0 lock.wait.text 0 := by cases lock.wait <;> decide
  exact (Nests.lock left).loosen.append (.onlyIf _ fun _ => ((Nests.words mode).ahead wait).inClause .forUpdate)

theorem query_nested {nested : Query} (named : ∀ name ∈ (Node.query nested).names, Name name)
    (visited : ∀ node ∈ nested.visits, node.Nested target Name) : (Node.query nested).Nested target Name := by
  intro scope forced
  simp only [Query.visits, Query.core, List.forall_mem_append] at visited
  obtain ⟨⟨⟨⟨selected, ⟨⟨sources, restricted⟩, grouped⟩, having⟩, sorted⟩, offset⟩, fetch⟩ := visited
  have titles (selection : Selection) (mem : selection ∈ nested.selections) : ∀ name ∈ selection.aliasName, Name name :=
    fun name own => named name (List.mem_flatMap.mpr ⟨selection, mem, Option.mem_toList.mpr own⟩)
  have list := selections_nested forced titles selected
  have locks : Nests target Name true 0 (.ifSome nested.lock (locking target)) 0 :=
    .ifSome fun lock _ => locking_nested lock
  simp only [Node.fragment, query_inScope, query_parts, queryInScope]
  exact ((((((((selectClause_nested nested.distinct list).inClause .select).append
    (Nests.clause (by decide) .sources (groups_nested sources))).append
    (restriction_nested .restriction (by decide) restricted)).append
    (Nests.clause (by decide) .groupBy (partitionItems_nested grouped))).append
    (restriction_nested .having (by decide) having)).append
    (Nests.clause (by decide) .orderBy (sortItems_nested sorted))).append
    (offsetFetch_nested offset fetch)).append locks

theorem joins_nested {joined : List Join} (nested : ∀ node ∈ joined.flatMap Join.visits, node.Nested target Name) :
    Nests target Name false 0 (joins target joined) 0 := by
  induction joined with
  | nil => exact .nil false 0
  | cons j rest ih =>
    simp only [List.flatMap_cons, Join.visits, List.cons_append, List.forall_mem_cons, List.forall_mem_append] at nested
    obtain ⟨right, on, others⟩ := nested
    have table : Nests target Name false 0 (Render.table target j.table) 0 := right.alone
    have condition := condition_nested (fun condition => .text " on " ++ condition)
      (fun _ own => own.behind (by decide)) on
    have word : Leads false 0 j.kind.text 0 := by cases j.kind <;> decide
    rw [joins_cons]
    exact ((table.behind word).append condition).append (ih others)

theorem group_nested {from_ : TableGroup} (nested : ∀ node ∈ from_.visits, node.Nested target Name) :
    (Node.group from_).Nested target Name := by
  obtain ⟨primary, joined⟩ := List.forall_mem_cons.mp nested
  have table : Nests target Name false 0 (Render.table target from_.primary) 0 := primary.alone
  exact fun _ _ => table.append (joins_nested joined)

section

variable {aliasName : String} {columns : List String} (named : Name aliasName)
  (listed : ∀ name ∈ columns, Name name)

include named listed

theorem spannerAlias_nested (lateral : Bool) (source : DerivedSource) :
    Nests target Name false 0 (Spanner.derivedAlias ⟨source, aliasName, columns, lateral⟩) 0 := by
  cases source with
  | query nested => exact aliasText_nested named
  | function call =>
    match columns with
    | [] => exact aliasText_nested named
    | [column] =>
      show Nests target Name false 0 (if call.name.toLower = "unnest" then _ else _) 0
      split
      · exact aliasText_nested (listed column (.head _))
      · exact .fail false 0 _ 0
    | _ :: _ :: _ => exact .fail false 0 _ 0

theorem derivedAlias_nested (lateral : Bool) (source : DerivedSource) :
    Nests target Name false 0 (derivedAlias target ⟨source, aliasName, columns, lateral⟩) 0 := by
  have standard : Nests target Name false 0
      (.aliasText aliasName ++ .onlyIf (!columns.isEmpty) (.parens (.names columns))) 0 :=
    (aliasText_nested named).append (.onlyIf _ fun _ => (Nests.names listed).freely.parens)
  have own : Nests target Name false 0 _ 0 := spannerAlias_nested named listed lateral source
  obtain ⟨dialect, config⟩ := target
  cases dialect with
  | generic => exact standard.standard .derivedAlias
  | spanner => exact own.offered .derivedAlias

theorem derivedQuery_nested {lateral : Bool} {nested : Query} (own : (Node.query nested).Nested target Name) :
    (Node.table (.derived ⟨.query nested, aliasName, columns, lateral⟩)).Nested target Name := by
  intro _ _
  have renamed : Nests target Name false 0 ((query target nested).renamed nested columns) 0 := by
    unfold RenderedQuery.renamed
    split
    · exact .fail false 0 _ 0
    · exact (own { aliases := columns } listed).parens
  have part : Nests target Name false 0 (queryPart target nested (query target nested) columns) 0 := by
    have plain := subquery_nested own
    obtain ⟨dialect, config⟩ := target
    cases dialect with
    | generic => exact plain.standard .queryPart
    | spanner => exact renamed.offered .queryPart
  have word : Nests target Name false 0 (.onlyIf lateral (.text "lateral ")) 0 :=
    .onlyIf _ fun _ => .words (by decide)
  have standard := (word.append part).append
    (derivedAlias_nested named listed lateral (.query nested))
  have array (names : List String) (listed : ∀ name ∈ names, Name name) :
      Nests target Name false 0 (.text "unnest(array(" ++ (query target nested).inScope ⟨true, names⟩ ++ .text "))"
        ++ .aliasText aliasName) 0 :=
    (((Nests.deeper (Nests.deeper (own ⟨true, names⟩ listed))).behind (by decide)).ahead (by decide)).append
      (aliasText_nested named)
  obtain ⟨dialect, config⟩ := target
  cases dialect with
  | generic => exact standard.standard .derivedTable
  | spanner =>
    cases lateral with
    | false => exact standard.standard .derivedTable
    | true =>
      show Nests _ Name false 0 (.offer .derivedTable (Spanner.derivedTable ⟨.query nested, aliasName, columns, true⟩
        (.query nested (query ⟨.spanner, config⟩ nested))) _) 0
      cases refused : nested.namesRefused? columns with
      | some cause =>
        simp only [Spanner.derivedTable, refused, if_true]
        exact (Nests.fail false 0 cause 0).offered .derivedTable
      | none =>
        simp only [Spanner.derivedTable, refused, if_true]
        exact (array columns listed).offered .derivedTable

theorem derivedFunction_nested {lateral : Bool} {call : FunctionCall} (callee : Name call.name)
    (nested : ∀ node ∈ call.nodes, node.Nested target Name) :
    (Node.table (.derived ⟨.function call, aliasName, columns, lateral⟩)).Nested target Name := by
  intro _ _
  have rows := function_nested callee nested
  have word : Nests target Name false 0 (.onlyIf lateral (.text "lateral ")) 0 :=
    .onlyIf _ fun _ => .words (by decide)
  have standard := (word.append rows).append
    (derivedAlias_nested named listed lateral (.function call))
  have plain := rows.append (spannerAlias_nested named listed true (.function call))
  obtain ⟨dialect, config⟩ := target
  cases dialect with
  | generic => exact standard.standard .derivedTable
  | spanner =>
    cases lateral with
    | false => exact standard.standard .derivedTable
    | true => exact plain.offered .derivedTable

end

theorem table_nested {from_ : TableRef} (named : ∀ name ∈ (Node.table from_).names, Name name)
    (nested : ∀ node ∈ from_.nodes, node.Nested target Name) : (Node.table from_).Nested target Name := by
  match from_ with
  | .named ⟨table, aliasName⟩ =>
    have written : Nests target Name false 0 (.table table) 0 :=
      (Nests.name (named table (.head _))).append (.table table)
    exact fun _ _ => written.append <| .ifSome fun name mem =>
      aliasText_nested (named name (.tail _ (Option.mem_toList.mpr mem)))
  | .derived ⟨.query rows, aliasName, columns, lateral⟩ =>
    exact derivedQuery_nested (named aliasName (.head _))
      (fun name mem => named name (.tail _ (List.mem_append_left _ mem))) (nested (.query rows) (.head _))
  | .derived ⟨.function call, aliasName, columns, lateral⟩ =>
    exact derivedFunction_nested (named aliasName (.head _))
      (fun name mem => named name (.tail _ (List.mem_append_left _ mem)))
      (named call.name (.tail _ (List.mem_append_right _ (.head _)))) nested

end Render

end PortableSql
