import PortableSql.Proofs.ComposedQuery
import PortableSql.Proofs.RowPhrase

/-! Expressions, queries and tables as phrases.

A node is a phrase (`Node.Phrased`) if what Spanner writes for it is one in every scope with admitted aliases,
and mentions what the nodes mention that Spanner visits. An expression may stand after the word `distinct`.
-/

set_option autoImplicit false

namespace PortableSql

namespace Node

/-- The parameters and tables of a node and of the nodes that a dialect comes to from it. -/
def mentionsIn (dialect : Dialect) (node : Node) : List Mark :=
  node.leading ++ (node.visits dialect).attach.flatMap fun inner => mentionsIn dialect inner.1
termination_by node.size
decreasing_by exact (below_of_mem_visits inner.2).size_lt

theorem mentionsIn_eq (dialect : Dialect) (node : Node) :
    node.mentionsIn dialect = node.leading ++ (node.visits dialect).flatMap (mentionsIn dialect) := by
  rw [mentionsIn]
  simp

def joint : Node → Joint
  | .expr _ => .distinct
  | .statement _ | .query _ | .group _ | .table _ | .predicate _ | .item _ => .loose

/-- Whether a node is a phrase, in every scope with admitted aliases. -/
def Phrased (config : Config) (Name : String → Prop) (node : Node) : Prop :=
  ∀ scope : Scope, (∀ name ∈ scope.aliases, Name name) →
    Spanner.Phrase config Name node.joint (node.fragment ⟨.spanner, config⟩ scope) (node.mentionsIn .spanner) .tight

theorem Phrased.alone {config : Config} {Name : String → Prop} {node : Node} (phrased : node.Phrased config Name) :
    Spanner.Phrase config Name node.joint (node.fragment ⟨.spanner, config⟩ {}) (node.mentionsIn .spanner) .tight :=
  phrased {} fun _ mem => absurd mem List.not_mem_nil

end Node

namespace Render

open Spanner (Phrase)

variable {config : Config} {Name : String → Prop}

theorem exprs_phrased {items : List Expr} (phrased : ∀ node ∈ items.map Node.expr, node.Phrased config Name) :
    ∀ item ∈ items, Phrase config Name .distinct (expr ⟨.spanner, config⟩ item)
      ((Node.expr item).mentionsIn .spanner) .tight :=
  fun item mem => (phrased (.expr item) (List.mem_map_of_mem mem)).alone

theorem list_phrased {items : List Expr} (phrased : ∀ node ∈ items.map Node.expr, node.Phrased config Name) :
    Phrase config Name .loose (.separated "," (exprs ⟨.spanner, config⟩ items))
      ((items.map Node.expr).flatMap (Node.mentionsIn .spanner)) .tight := by
  rw [exprs_eq_map, List.flatMap_map]
  exact .separated .comma fun item mem => (exprs_phrased phrased item mem).loosen

theorem function_phrased {call : FunctionCall} (named : Name call.name)
    (phrased : ∀ node ∈ call.nodes, node.Phrased config Name) :
    Phrase config Name .distinct (function ⟨.spanner, config⟩ call)
      (call.nodes.flatMap (Node.mentionsIn .spanner)) .tight := by
  obtain ⟨name, args, returnType⟩ := call
  exact (Phrase.name named).append ((list_phrased phrased).parens .tight)

theorem column_phrased {column : ColumnRef} (named : ∀ name ∈ column.names, Name name) :
    Phrase config Name .distinct column.fragment [] .tight := by
  obtain ⟨qualifier, name, sqlType⟩ := column
  cases qualifier with
  | none =>
    have own : Phrase config Name .distinct (.text name) [] .tight := .name (named name (by simp [ColumnRef.names]))
    exact own
  | some qualifier =>
    have own : Phrase config Name .distinct (.text name) [] .tight := .name (named name (by simp [ColumnRef.names]))
    have first : Phrase config Name .distinct (.text qualifier) [] .tight :=
      .name (named qualifier (by simp [ColumnRef.names]))
    exact (first.ahead (by decide)).append own.loosen

theorem aliasText_phrased {aliasName : String} (named : Name aliasName) :
    Phrase config Name .tight (.aliasText aliasName) [] .tight :=
  (Phrase.name named).loosen.behind (by decide)

section

variable {before : Joint} {l r : Fragment} {mentions mentions' : List Mark}

theorem arithmetic_phrased (left : Expr) (op : ArithmeticOp) (right : Expr)
    (first : Phrase config Name .distinct l mentions .tight)
    (second : Phrase config Name .distinct r mentions' .tight) :
    Phrase config Name .distinct (arithmetic ⟨.spanner, config⟩ left op right l r) (mentions ++ mentions')
      .tight := by
  have args : Phrase config Name .tight (.parens (l ++ .text "," ++ r)) (mentions ++ mentions') .tight :=
    ((first.loosen.ahead .comma).append second.loosen).parens .tight
  have sign (plain : op ≠ .modulo) : Joint.tight.Spells op.text .loose := by
    cases op <;> first | contradiction | decide
  show Phrase config Name _ (.offer _ (Spanner.arithmetic left op right l r) _) _ _
  rw [Spanner.arithmetic, standardArithmetic]
  split
  · exact (args.behind (by decide)).offered .arithmetic
  · refine Phrase.standard .arithmetic ?_
    split
    · exact args.behind (by decide)
    · next plain => exact ((first.loosen.ahead (sign plain)).append second.loosen).parens .distinct

theorem sortItem_phrased (phrase : Phrase config Name before l mentions .tight) (descending : Bool)
    (nulls : Option NullPrecedence) : Phrase config Name before (sortItem l descending nulls) mentions .tight := by
  have order : Phrase config Name .tight (.onlyIf descending (.text " desc")) [] .tight :=
    .silentIf descending (.words (by decide))
  have precedence : Phrase config Name .tight (.ifSome nulls fun nulls => .text nulls.text) [] .tight := by
    cases nulls with
    | none => exact .nil _
    | some nulls => exact .words (by cases nulls <;> decide)
  exact ((phrase.append order).append precedence).congr (by simp)

end

theorem window_phrased {α β : Type} {call : Fragment} {mentions : List Mark} {partitions : List α} {sorts : List β}
    {partition : α → Fragment} {sort : β → Fragment} {ofPartition : α → List Mark} {ofSort : β → List Mark}
    (called : Phrase config Name .distinct call mentions .tight)
    (parted : ∀ a ∈ partitions, Phrase config Name .loose (partition a) (ofPartition a) .tight)
    (sorted : ∀ b ∈ sorts, Phrase config Name .loose (sort b) (ofSort b) .tight) :
    Phrase config Name .distinct (window call (partitions.map partition) (sorts.map sort))
      (mentions ++ partitions.flatMap ofPartition ++ sorts.flatMap ofSort) .tight := by
  have opening : Phrase config Name .distinct (call ++ .text " over (") mentions .loose :=
    called.ahead (by decide)
  have closing : Joint.tight.Spells ")" .tight := by decide
  have parting : Joint.loose.Spells "partition by " .loose := by decide
  have sorting : Joint.loose.Spells "order by " .loose := by decide
  have groups := ((Phrase.separated .comma parted).behind parting).inClause .partition
  have order := ((Phrase.separated .comma sorted).behind sorting).inClause .orderBy
  -- A blank keeps the clauses apart if both are there.
  have gap : Joint.tight.Spells " " .loose := by decide
  cases partitions with
  | nil =>
    cases sorts with
    | nil => exact ((((opening.append (.nil _)).append (.nil _)).append (.nil _)).tighten.ahead closing).congr (by simp)
    | cons => exact ((((opening.append (.nil _)).append (.nil _)).append order).ahead closing).congr (by simp)
  | cons =>
    cases sorts with
    | nil => exact ((((opening.append groups).append (.nil _)).append (.nil _)).ahead closing).congr (by simp)
    | cons => exact ((((opening.append groups).append (.words gap)).append order).ahead closing).congr (by simp)

theorem partitionItems_phrased {items : List Expr}
    (phrased : ∀ node ∈ items.map Node.item, node.Phrased config Name) :
    ∀ item ∈ items, Phrase config Name .loose
      (partitionItem ⟨.spanner, config⟩ item (expr ⟨.spanner, config⟩ item)) ((Node.item item).mentionsIn .spanner)
      .tight :=
  fun item mem => (phrased (.item item) (List.mem_map_of_mem mem)).alone

theorem sortItems_phrased {items : List SortItem}
    (phrased : ∀ node ∈ items.map (Node.expr ·.expr), node.Phrased config Name) :
    ∀ item ∈ items, Phrase config Name .loose
      (sortItem (expr ⟨.spanner, config⟩ item.expr) item.descending item.nulls)
      ((Node.expr item.expr).mentionsIn .spanner) .tight := fun item mem =>
  sortItem_phrased (phrased (.expr item.expr) (List.mem_map_of_mem (f := (Node.expr ·.expr)) mem)).alone.loosen
    item.descending item.nulls

theorem groups_phrased {sources : List TableGroup}
    (phrased : ∀ node ∈ sources.map Node.group, node.Phrased config Name) :
    ∀ g ∈ sources, Phrase config Name .loose (group ⟨.spanner, config⟩ g) ((Node.group g).mentionsIn .spanner) .tight :=
  fun g mem => (phrased (.group g) (List.mem_map_of_mem mem)).alone

theorem expr_phrased {e : Expr} (texts : ∀ text ∈ config.statementTexts, Name text)
    (named : ∀ name ∈ (Node.expr e).names, Name name) (phrased : ∀ node ∈ e.nodes, node.Phrased config Name) :
    (Node.expr e).Phrased config Name := by
  have double : Name (config.typeName .double) := texts _ (by simp [Config.statementTexts])
  have below : Phrase config Name .distinct (expr ⟨.spanner, config⟩ e)
      ((Node.expr e).leading ++ e.nodes.flatMap (Node.mentionsIn .spanner)) .tight := by
    cases e with
    | star => exact .words (by decide)
    | literal value => exact .value value double
    | column column => exact column_phrased named
    | parameter parameter => exact .placeholder parameter
    | arithmetic left op right =>
      have operands := arithmetic_phrased left op right (phrased (.expr left) (.head _)).alone
        (phrased (.expr right) (.tail _ (.head _))).alone
      exact operands.congr (by simp [Node.leading, Expr.nodes])
    | function call => exact function_phrased (named _ (.head _)) phrased
    | window call partitionBy orderBy =>
      simp only [Expr.nodes, List.forall_mem_append] at phrased
      obtain ⟨⟨args, partitions⟩, sorts⟩ := phrased
      simp only [expr, operand, Operand.fragment, partitionItems_eq_map, sortItems_eq_map]
      refine (window_phrased (function_phrased (named _ (.head _)) args) (partitionItems_phrased partitions)
        (sortItems_phrased sorts)).congr ?_
      simp [Node.leading, Expr.nodes]
    | tuple items => exact (list_phrased phrased).parens .distinct
    | subquery quantifier nested =>
      have rows (joint : Joint) : Phrase config Name joint (query ⟨.spanner, config⟩ nested).subquery
          ([Node.query nested].flatMap (Node.mentionsIn .spanner)) .tight :=
        ((phrased (.query nested) (.head _)).alone.parens joint).congr (by simp)
      cases quantifier with
      | one => exact rows .distinct
      | any => exact (rows .tight).behind (by decide)
      | every => exact (rows .tight).behind (by decide)
    | summarization kind groupings =>
      exact ((list_phrased phrased).parens .tight).behind (by cases kind <;> decide)
  exact fun _ _ => below.congr (by simp [Node.mentionsIn_eq .spanner (.expr e), Node.visits])

theorem item_phrased {e : Expr} (phrased : (Node.expr e).Phrased config Name) : (Node.item e).Phrased config Name := by
  have same : (Node.item e).mentionsIn .spanner = (Node.expr e).mentionsIn .spanner := by
    simp [Node.mentionsIn_eq .spanner (.item e), Node.visits, Node.leading]
  intro scope admitted
  rw [same]
  show Phrase config Name .loose (.offer _ (Spanner.partitionItem e) (standardPartitionItem e _)) _ _
  cases e with
  | literal value =>
    have silent : (Node.expr (.literal value)).mentionsIn .spanner = [] := by
      rw [Node.mentionsIn_eq]
      rfl
    exact silent ▸ Phrase.bucket.offered .partitionItem
  | summarization kind groupings => exact (Phrase.fail _ _).offered .partitionItem
  | star | column | parameter | arithmetic | function | window | tuple | subquery =>
    exact phrased.alone.loosen.standard .partitionItem

section

variable {joint : Joint} {around : Fragment → Fragment}
  (kept : ∀ fragment mentions, Phrase config Name .loose fragment mentions .tight →
    Phrase config Name joint (around fragment) mentions joint)

include kept

theorem condition_phrased {restriction : Option Predicate}
    (phrased : ∀ node ∈ Predicate.visited restriction, node.Phrased config Name) :
    Phrase config Name joint (.ifSome (condition ⟨.spanner, config⟩ restriction) around)
      ((Predicate.visited restriction).flatMap (Node.mentionsIn .spanner)) joint := by
  have own : ∀ p ∈ Predicate.effective? restriction,
      Phrase config Name .loose (predicate ⟨.spanner, config⟩ p) ((Node.predicate p).mentionsIn .spanner) .tight :=
    fun p mem => (phrased (.predicate p) (List.mem_map_of_mem (Option.mem_toList.mpr mem))).alone
  rw [condition_eq_map, Predicate.visited, List.flatMap_map]
  exact .perhaps own kept

theorem optional_phrased {value : Option Expr}
    (phrased : ∀ node ∈ value.toList.map Node.expr, node.Phrased config Name) :
    Phrase config Name joint (.ifSome (optional ⟨.spanner, config⟩ value) around)
      ((value.toList.map Node.expr).flatMap (Node.mentionsIn .spanner)) joint := by
  have own : ∀ e ∈ value,
      Phrase config Name .loose (expr ⟨.spanner, config⟩ e) ((Node.expr e).mentionsIn .spanner) .tight :=
    fun e mem => (phrased (.expr e) (List.mem_map_of_mem (Option.mem_toList.mpr mem))).alone.loosen
  rw [optional_eq_map, List.flatMap_map]
  exact .perhaps own kept

end

theorem restriction_phrased {restriction : Option Predicate} (clause : Clause) {keyword : String}
    (spells : Joint.tight.Spells keyword .loose)
    (phrased : ∀ node ∈ Predicate.visited restriction, node.Phrased config Name) :
    Phrase config Name .tight (RowValue.restriction clause keyword (condition ⟨.spanner, config⟩ restriction))
      ((Predicate.visited restriction).flatMap (Node.mentionsIn .spanner)) .tight :=
  condition_phrased (fun _ _ own => (own.behind spells).inClause clause) phrased

theorem paging_phrased {offset fetch : Option Expr}
    (skipped : ∀ node ∈ offset.toList.map Node.expr, node.Phrased config Name)
    (fetched : ∀ node ∈ fetch.toList.map Node.expr, node.Phrased config Name) :
    Phrase config Name .tight
      (offsetFetch ⟨.spanner, config⟩ (optional ⟨.spanner, config⟩ offset) (optional ⟨.spanner, config⟩ fetch))
      ((offset.toList.map Node.expr ++ fetch.toList.map Node.expr).flatMap (Node.mentionsIn .spanner)) .tight := by
  have limit : Joint.tight.Spells " limit " .loose := by decide
  have start : Joint.tight.Spells " offset " .loose := by decide
  have last := optional_phrased (fun _ _ own => (own.behind limit).inClause .fetch) fetched
  have first := optional_phrased (fun _ _ own => (own.behind start).inClause .offset) skipped
  refine ((last.append first).offered .offsetFetch).congr fun mark => ?_
  simp only [List.flatMap_append, List.mem_append]
  exact or_comm

/-- Selections with their aliases, each a phrase that may stand after the word `distinct`. -/
theorem aliased_phrased {list : List Selection} {aliases : List String}
    (phrased : ∀ node ∈ list.map (Node.expr ·.expr), node.Phrased config Name)
    (own : ∀ selection ∈ list, ∀ name ∈ selection.aliasName, Name name) (forced : ∀ name ∈ aliases, Name name) :
    ∃ members : List (Fragment × List Mark),
      aliased (selectionList ⟨.spanner, config⟩ list) aliases = members.map Prod.fst ∧
      members.flatMap Prod.snd = (list.map (Node.expr ·.expr)).flatMap (Node.mentionsIn .spanner) ∧
      ∀ member ∈ members, Phrase config Name .distinct member.1 member.2 .tight := by
  induction list generalizing aliases with
  | nil => exact ⟨[], by cases aliases <;> rfl, rfl, nofun⟩
  | cons selection list ih =>
    obtain ⟨selected, aliasName⟩ := selection
    obtain ⟨first, phrased⟩ := List.forall_mem_cons.mp phrased
    obtain ⟨name, own⟩ := List.forall_mem_cons.mp own
    have first : Phrase config Name .distinct (expr ⟨.spanner, config⟩ selected) _ .tight := first.alone
    cases aliases with
    | nil =>
      obtain ⟨members, same, mentions, each⟩ := ih phrased own forced
      have named : Phrase config Name .tight (.ifSome aliasName .aliasText) [] .tight := by
        cases aliasName with
        | none => exact .nil _
        | some aliasName => exact aliasText_phrased (name aliasName rfl)
      refine ⟨(_, _) :: members, congrArg (_ :: ·) same, congrArg (_ ++ ·) mentions,
        List.forall_mem_cons.mpr ⟨(first.append named).congr (by simp), each⟩⟩
    | cons forcedName aliases =>
      obtain ⟨name, forced⟩ := List.forall_mem_cons.mp forced
      obtain ⟨members, same, mentions, each⟩ := ih phrased own forced
      refine ⟨(_, _) :: members, congrArg (_ :: ·) same, congrArg (_ ++ ·) mentions,
        List.forall_mem_cons.mpr ⟨(first.append (aliasText_phrased name)).congr (by simp), each⟩⟩

theorem selections_phrased {list : List Selection} {scope : Scope}
    (phrased : ∀ node ∈ list.map (Node.expr ·.expr), node.Phrased config Name)
    (own : ∀ selection ∈ list, ∀ name ∈ selection.aliasName, Name name) (forced : ∀ name ∈ scope.aliases, Name name) :
    Phrase config Name .distinct (selections scope (selectionList ⟨.spanner, config⟩ list))
      ((list.map (Node.expr ·.expr)).flatMap (Node.mentionsIn .spanner)) .tight := by
  cases list with
  | nil => exact .words (by decide)
  | cons first rest =>
    obtain ⟨members, same, mentions, each⟩ := aliased_phrased phrased own forced
    obtain ⟨selected, aliasName⟩ := first
    have inhabited : members ≠ [] := by
      rintro rfl
      obtain ⟨correlated, aliases⟩ := scope
      cases aliases <;> exact absurd same (List.cons_ne_nil _ _)
    have list : selections scope (selectionList ⟨.spanner, config⟩ (⟨selected, aliasName⟩ :: rest)) =
        .separated "," (members.map Prod.fst) := by
      rw [← same]
      rfl
    rw [← mentions, list]
    exact .series .comma inhabited each

theorem selectClause_phrased {list : List (Fragment × Option String)} {mentions : List Mark} (distinct : Bool)
    {scope : Scope} (selected : Phrase config Name .distinct (selections scope list) mentions .tight) :
    Phrase config Name .loose (selectClause ⟨.spanner, config⟩ distinct scope list) mentions .tight := by
  have struct : Phrase config Name .loose (.onlyIf scope.correlated (.text "as struct ")) [] .loose :=
    .silentIf _ (.words (by decide))
  have head : Phrase config Name .loose (.text "select " ++ .onlyIf scope.correlated (.text "as struct ")) [] .loose :=
    struct.behind (by decide)
  refine Phrase.offered .selectClause ?_
  cases distinct with
  | false => exact (head.append (.nil _)).append selected.loosen
  | true =>
    have word : Phrase config Name .loose (.text "distinct ") [] .distinct := .words (by decide)
    exact (head.append word).append selected

theorem query_phrased {nested : Query} (named : ∀ name ∈ (Node.query nested).names, Name name)
    (phrased : ∀ node ∈ nested.visits, node.Phrased config Name) : (Node.query nested).Phrased config Name := by
  intro scope admitted
  simp only [Query.visits, Query.core, List.forall_mem_append] at phrased
  obtain ⟨⟨⟨⟨selected, ⟨⟨sources, restricted⟩, grouped⟩, having⟩, sorts⟩, offset⟩, fetch⟩ := phrased
  have own (selection : Selection) (mem : selection ∈ nested.selections) (name : String)
      (aliased : name ∈ selection.aliasName) : Name name :=
    named name (List.mem_flatMap.mpr ⟨selection, mem, Option.mem_toList.mpr aliased⟩)
  -- Spanner has no opinion on locks but to take none.
  have lock : Phrase config Name .tight (.ifSome nested.lock (locking ⟨.spanner, config⟩)) [] .tight := by
    cases nested.lock with
    | none => exact .nil _
    | some options => exact (Phrase.lock _ _ _).append (.nil _)
  simp only [Node.fragment, query_inScope, query_parts, queryInScope, groups_eq_map,
    partitionItems_eq_map, sortItems_eq_map, RowValue.grouping]
  have clause := selectClause_phrased nested.distinct (selections_phrased selected own admitted)
  refine Phrase.congr ((((((((clause.inClause .select).append (.listed (by decide) (groups_phrased sources))).append
    (restriction_phrased .restriction (by decide) restricted)).append
    (.listed (by decide) (partitionItems_phrased grouped))).append
    (restriction_phrased .having (by decide) having)).append
    (.listed (by decide) (sortItems_phrased sorts))).append (paging_phrased offset fetch)).append lock) ?_
  simp [Node.mentionsIn_eq .spanner (.query nested), Node.leading, Node.visits, Query.visits, Query.core,
    List.flatMap_map]

theorem joins_phrased {joined : List Join} (phrased : ∀ node ∈ joined.flatMap Join.visits, node.Phrased config Name) :
    Phrase config Name .tight (joins ⟨.spanner, config⟩ joined)
      ((joined.flatMap Join.visits).flatMap (Node.mentionsIn .spanner)) .tight := by
  induction joined with
  | nil => exact .nil _
  | cons j rest ih =>
    obtain ⟨own, others⟩ := List.forall_mem_append.mp phrased
    obtain ⟨first, on⟩ := List.forall_mem_cons.mp own
    have spells : Joint.tight.Spells j.kind.text .loose := by cases j.kind <;> decide
    have table : Phrase config Name .loose (table ⟨.spanner, config⟩ j.table) _ .tight := first.alone
    have word : Joint.tight.Spells " on " .loose := by decide
    have on := condition_phrased (fun _ _ condition => condition.behind word) on
    rw [joins_cons]
    refine (((table.behind spells).append on).append (ih others)).congr ?_
    simp [Join.visits]

theorem group_phrased {from_ : TableGroup} (phrased : ∀ node ∈ from_.visits, node.Phrased config Name) :
    (Node.group from_).Phrased config Name := by
  obtain ⟨first, joined⟩ := List.forall_mem_cons.mp phrased
  have primary : Phrase config Name .loose (table ⟨.spanner, config⟩ from_.primary) _ .tight := first.alone
  refine fun _ _ => (primary.append (joins_phrased joined)).congr ?_
  simp [Node.mentionsIn_eq .spanner (.group from_), Node.leading, Node.visits, TableGroup.visits]

theorem functionAlias_phrased {call : FunctionCall} {from_ : DerivedTable} (named : Name from_.aliasName)
    (columns : ∀ name ∈ from_.columnNames, Name name) :
    Phrase config Name .tight (Spanner.functionAlias call from_) [] .tight := by
  unfold Spanner.functionAlias
  split
  · exact aliasText_phrased named
  · next column same =>
    split
    · exact aliasText_phrased (columns column (by simp [same]))
    · exact .fail _ _
  · exact .fail _ _

theorem derivedQuery_phrased {nested : Query} {aliasName : String} {columns : List String} {lateral : Bool}
    (titled : Name aliasName) (names : ∀ name ∈ columns, Name name)
    (phrased : (Node.query nested).Phrased config Name) :
    Phrase config Name .loose (table ⟨.spanner, config⟩ (.derived ⟨.query nested, aliasName, columns, lateral⟩))
      ((Node.query nested).mentionsIn .spanner) .tight := by
  have renamed (correlated : Bool) : Phrase config Name .loose
      ((query ⟨.spanner, config⟩ nested).inScope ⟨correlated, columns⟩) _ .tight := phrased ⟨correlated, columns⟩ names
  cases lateral with
  | false =>
    have rows : Phrase config Name .loose ((query ⟨.spanner, config⟩ nested).renamed nested columns)
        ((Node.query nested).mentionsIn .spanner) .tight := by
      unfold RenderedQuery.renamed
      split
      · exact .fail _ _
      · exact (renamed false).parens .loose
    refine ((((Phrase.nil .loose).append (rows.offered .queryPart)).append
      ((aliasText_phrased titled).offered .derivedAlias)).standard .derivedTable).congr ?_
    simp
  | true =>
    show Phrase config Name .loose (.offer .derivedTable (Spanner.derivedTable
      ⟨.query nested, aliasName, columns, true⟩ (.query nested (query ⟨.spanner, config⟩ nested))) _) _ _
    cases refused : nested.namesRefused? columns with
    | some cause =>
      simp only [Spanner.derivedTable, refused, if_true]
      exact (Phrase.fail cause _).offered .derivedTable
    | none =>
      simp only [Spanner.derivedTable, refused, if_true]
      refine Phrase.offered .derivedTable ?_
      exact ((((renamed true).behind (by decide)).ahead (by decide)).append
        (aliasText_phrased titled)).congr (by simp)

theorem derivedFunction_phrased {call : FunctionCall} {aliasName : String} {columns : List String} {lateral : Bool}
    (titled : Name aliasName) (names : ∀ name ∈ columns, Name name) (called : Name call.name)
    (phrased : ∀ node ∈ call.nodes, node.Phrased config Name) :
    Phrase config Name .loose (table ⟨.spanner, config⟩ (.derived ⟨.function call, aliasName, columns, lateral⟩))
      (call.nodes.flatMap (Node.mentionsIn .spanner)) .tight := by
  have source := (function_phrased called phrased).loosen
  have named : Phrase config Name .tight
      (Spanner.functionAlias call ⟨.function call, aliasName, columns, lateral⟩) [] .tight :=
    functionAlias_phrased titled names
  cases lateral with
  | false =>
    refine ((((Phrase.nil .loose).append source).append (named.offered .derivedAlias)).standard .derivedTable).congr ?_
    simp
  | true => exact ((source.append named).offered .derivedTable).congr (by simp)

theorem table_phrased {from_ : TableRef} (named : ∀ name ∈ (Node.table from_).names, Name name)
    (phrased : ∀ node ∈ from_.nodes, node.Phrased config Name) : (Node.table from_).Phrased config Name := by
  have below : Phrase config Name .loose (table ⟨.spanner, config⟩ from_)
      ((Node.table from_).leading ++ from_.nodes.flatMap (Node.mentionsIn .spanner)) .tight := by
    match from_ with
    | .named ⟨name, none⟩ => exact ((Phrase.table (named name (.head _))).append (.nil _))
    | .named ⟨name, some aliasName⟩ =>
      exact (Phrase.table (named name (.head _))).append (aliasText_phrased (named aliasName (.tail _ (.head _))))
    | .derived ⟨.query nested, aliasName, columns, lateral⟩ =>
      refine (derivedQuery_phrased (named aliasName (.head _)) (fun name mem => named name ?_)
        (phrased _ (.head _))).congr ?_
      · simp [Node.names, DerivedTable.names, mem]
      · simp [Node.leading, TableRef.nodes]
    | .derived ⟨.function call, aliasName, columns, lateral⟩ =>
      refine derivedFunction_phrased (named aliasName (.head _)) (fun name mem => named name ?_)
        (named call.name ?_) phrased
      · simp [Node.names, DerivedTable.names, mem]
      · simp [Node.names, DerivedTable.names]
  exact fun _ _ => below.congr (by simp [Node.mentionsIn_eq .spanner (.table from_), Node.visits])

end Render

end PortableSql
