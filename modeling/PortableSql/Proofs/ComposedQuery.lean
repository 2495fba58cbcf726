import PortableSql.Proofs.Composition
import PortableSql.Proofs.Traversal

/-! Queries and tables are put together from the nodes below them.

A node composes (`Node.Composed`) if what it adds does, for all contents and in every scope with
admitted aliases. The lists of a node are taken element by element. An expression, a predicate or a
table never stands right after a literal; a query begins with a word.
-/

set_option autoImplicit false

namespace PortableSql

def ColumnRef.names (column : ColumnRef) : List String :=
  column.qualifier.toList ++ [column.name]

def NamedTable.names (table : NamedTable) : List String :=
  table.table :: table.aliasName.toList

def DerivedTable.names (table : DerivedTable) : List String :=
  table.aliasName :: table.columnNames ++ match table.source with
    | .query _ => []
    | .function call => [call.name]

def Conflict.names (conflict : Conflict) : List String :=
  conflict.constraintName.toList ++ conflict.constraintColumns ++ match conflict.action with
    | .doNothing => []
    | .doUpdate assignments => assignments.flatMap (·.column.names)

/-- The names right at a node. -/
def Node.names : Node → List String
  | .statement (.insert change) =>
    change.target.names ++ change.columns ++ change.conflict.toList.flatMap Conflict.names
      ++ change.returning.flatMap ColumnRef.names
  | .statement (.update change) =>
    change.target.names ++ change.assignments.flatMap (·.column.names)
      ++ change.returning.flatMap ColumnRef.names
  | .statement (.delete change) => change.target.names ++ change.returning.flatMap ColumnRef.names
  | .query nested => nested.selections.flatMap (·.aliasName.toList)
  | .table (.named from_) => from_.names
  | .table (.derived from_) => from_.names
  | .expr (.column column) => column.names
  | .expr (.function call) | .expr (.window call _ _) => [call.name]
  | .statement (.select _) | .group _ | .predicate _ | .expr _ | .item _ => []

/-- The contents of a string literal. -/
def Node.strings : Node → List String
  | .expr (.literal (.string text)) => [text]
  | _ => []

/-- Whether a node may stand right after a literal. -/
def Node.startsWithWord : Node → Bool
  | .statement _ | .query _ => true
  | .group _ | .table _ | .predicate _ | .expr _ | .item _ => false

/-- Whether a property holds of a node with any contents, in any scope with admitted aliases. -/
def Node.Composed (Name : String → Prop) (P : Bool → Family → Bool → Prop) (target : Target)
    (node : Node) : Prop :=
  ∀ scope : Scope, (∀ name ∈ scope.aliases, Name name) →
    P node.startsWithWord (fun contents => (node.revise contents.revision).fragment target scope) true

/-- What composes in every scope does so in the scope that forces nothing. -/
theorem Node.Composed.alone {Name : String → Prop} {P : Bool → Family → Bool → Prop} {target : Target}
    {node : Node} (composed : node.Composed Name P target) :
    P node.startsWithWord (fun contents => (node.revise contents.revision).fragment target {}) true :=
  composed {} fun _ mem => absurd mem List.not_mem_nil

namespace Composes

variable {target : Target} {Name Content : String → Prop} {Takes : ArithmeticOp → Family → Prop}
  {P : Bool → Family → Bool → Prop} (rules : Composes target.config Name Content Takes P)

include rules

theorem eachBelow {list : Contents → List Fragment} (branch : Nat) (each : Each (Inside P) list) :
    Each (Inside P) fun contents => list (contents.below branch) :=
  each.along fun _ => rules.below branch

theorem perhapsBelow {value : Contents → Option Fragment} (branch : Nat)
    (there : Perhaps (Inside P) value) : Perhaps (Inside P) fun contents => value (contents.below branch) :=
  there.along fun _ => rules.below branch

theorem selectedBelow (branch : Nat) (selection : Contents → Fragment × Option String) :
    Selected Name P selection → Selected Name P fun contents => selection (contents.below branch) :=
  Selected.along (rules.below branch)

theorem partsBelow {parts : Contents → QueryParts} (branch : Nat)
    (composed : QueryParts.Composed Name P parts) :
    QueryParts.Composed Name P fun contents => parts (contents.below branch) :=
  composed.along (rules.below branch)

theorem exprs {items : List Expr} (kind : ∀ e ∈ items, (Node.expr e).Composed Name P target) :
    Each (Inside P) fun contents => Render.exprs target (reviseExprs contents.revision items) := by
  simp only [reviseExprs_eq, Render.exprs_eq_map]
  exact Each.map_each (fun branch _ => rules.below branch) fun e mem => (kind e mem).alone

theorem function {call : FunctionCall} (named : Name call.name)
    (kind : ∀ node ∈ call.nodes, node.Composed Name P target) :
    P true (fun contents => Render.function target (call.revise contents.revision)) false := by
  obtain ⟨name, args, returnType⟩ := call
  exact rules.functionOf named (rules.exprs fun e mem => kind _ (List.mem_map_of_mem mem))

theorem partitionItems {items : List Expr} (kind : ∀ e ∈ items, (Node.item e).Composed Name P target) :
    Each (Inside P) fun contents => Render.partitionItems target (reviseExprs contents.revision items) := by
  simp only [reviseExprs_eq, Render.partitionItems_eq_map]
  exact Each.map_each (fun branch _ => rules.below branch) fun e mem => (kind e mem).alone

theorem sortItems {items : List SortItem}
    (kind : ∀ item ∈ items, (Node.expr item.expr).Composed Name P target) :
    Each (Inside P) fun contents => Render.sortItems target (reviseSorts contents.revision items) := by
  simp only [reviseSorts_eq, Render.sortItems_eq_map]
  exact Each.map_each (fun branch _ => rules.below branch) fun item mem =>
    rules.sortItem (kind item mem).alone item.descending item.nulls

theorem selectionList {selections : List Selection}
    (named : ∀ selection ∈ selections, ∀ name ∈ selection.aliasName, Name name)
    (kind : ∀ selection ∈ selections, (Node.expr selection.expr).Composed Name P target) :
    Each (Selected Name P) fun contents =>
      Render.selectionList target (reviseSelections contents.revision selections) := by
  simp only [reviseSelections_eq, Render.selectionList_eq_map]
  exact Each.map_each rules.selectedBelow fun selection mem =>
    ⟨_, selection.aliasName, rfl, (kind selection mem).alone, named selection mem⟩

omit rules in
theorem condition {restriction : Option Predicate}
    (kind : ∀ p ∈ restriction, (Node.predicate p).Composed Name P target) :
    Perhaps (Inside P) fun contents =>
      Render.condition target (reviseCondition contents.revision restriction) := by
  cases restriction with
  | none => exact .inl rfl
  | some p =>
    simp only [Contents.reviseCondition_revision, Option.map_some, Render.condition,
      Predicate.isEmpty_revise]
    split
    · exact .inl rfl
    · exact .inr ⟨_, rfl, (kind p rfl).alone⟩

omit rules in
theorem optional {value : Option Expr} (kind : ∀ e ∈ value, (Node.expr e).Composed Name P target) :
    Perhaps (Inside P) fun contents =>
      Render.optional target (reviseOptional contents.revision value) := by
  cases value with
  | none => exact .inl rfl
  | some e => exact .inr ⟨_, rfl, (kind e rfl).alone⟩

theorem joins {joined : List Join} (kind : ∀ j ∈ joined, ∀ node ∈ j.nodes, node.Composed Name P target) :
    P true (fun contents => Render.joins target (reviseJoins contents.revision joined)) true := by
  simp only [reviseJoins_eq]
  induction joined with
  | nil => exact rules.nil true
  | cons j rest ih =>
    obtain ⟨own, others⟩ := List.forall_mem_cons.mp kind
    have table : Inside P fun contents => Render.table target (j.table.revise contents.revision) :=
      (own (.table j.table) List.mem_cons_self).alone
    have on : Perhaps (Inside P) fun contents =>
        Render.condition target (reviseCondition contents.revision j.on) :=
      condition fun p mem =>
        own (.predicate p) (List.mem_cons_of_mem _ (List.mem_map_of_mem (Option.mem_toList.mpr mem)))
    have joined := rules.join j.kind (rules.below 0 table) (rules.perhapsBelow 1 on)
    simp only [Revision.each, Render.joins_cons]
    exact rules.append (rules.below 0 joined) (rules.below 1 (ih others))

theorem group {from_ : TableGroup} (kind : ∀ node ∈ from_.nodes, node.Composed Name P target) :
    (Node.group from_).Composed Name P target := by
  intro _ _
  have primary : Inside P fun contents => Render.table target (from_.primary.revise contents.revision) :=
    (kind (.table from_.primary) List.mem_cons_self).alone
  have joined := rules.joins fun j mem node inner =>
    kind node (List.mem_cons_of_mem _ (List.mem_flatMap.mpr ⟨j, mem, inner⟩))
  exact rules.append (rules.below 0 primary) (rules.below 1 joined)

theorem groups {sources : List TableGroup} (kind : ∀ g ∈ sources, (Node.group g).Composed Name P target) :
    Each (Inside P) fun contents => Render.groups target (reviseGroups contents.revision sources) := by
  simp only [reviseGroups_eq, Render.groups_eq_map]
  exact Each.map_each (fun branch _ => rules.below branch) fun g mem => (kind g mem).alone

/-- The parts of a query compose if the nodes below it do. -/
theorem queryParts {nested : Query} (named : ∀ name ∈ (Node.query nested).names, Name name)
    (kind : ∀ node ∈ nested.nodes, node.Composed Name P target) :
    QueryParts.Composed Name P fun contents =>
      (Render.query target (nested.revise contents.revision)).parts := by
  obtain ⟨selections, sources, restriction, groupBy, having, orderBy, offset, fetch⟩ :=
    Query.forall_nodes.mp kind
  have aliases (selection : Selection) (mem : selection ∈ nested.selections) :
      ∀ name ∈ selection.aliasName, Name name := fun name own =>
    named name (List.mem_flatMap.mpr ⟨selection, mem, Option.mem_toList.mpr own⟩)
  obtain ⟨distinct, _, _, _, _, _, _, _, _, lock⟩ := nested
  simp only [Render.query_parts, Query.revise, Contents.revision_below]
  exact {
    distinct := ⟨distinct, fun _ => rfl⟩
    selections := (rules.selectionList aliases selections).below rules.selectedBelow 0
    sources := rules.eachBelow 1 (rules.groups sources)
    restriction := rules.perhapsBelow 2 (condition restriction)
    groupBy := rules.eachBelow 3 (rules.partitionItems groupBy)
    hasHaving := ⟨_, fun _ => by simp only [Contents.reviseCondition_revision, Option.isSome_map]; rfl⟩
    having := rules.perhapsBelow 4 (condition having)
    orderBy := rules.eachBelow 5 (rules.sortItems orderBy)
    offset := rules.perhapsBelow 6 (optional offset)
    fetch := rules.perhapsBelow 7 (optional fetch)
    lock := ⟨lock, fun _ => rfl⟩ }

theorem query {nested : Query} (named : ∀ name ∈ (Node.query nested).names, Name name)
    (kind : ∀ node ∈ nested.nodes, node.Composed Name P target) :
    (Node.query nested).Composed Name P target := by
  intro scope admitted
  simp only [Node.fragment, Node.revise, Render.query_inScope]
  exact rules.queryInScope (rules.queryParts named kind) admitted

section

variable {aliasName : String} {columnNames : List String} (named : Name aliasName)
  (columns : ∀ name ∈ columnNames, Name name)

include named columns

theorem standardAlias (lateral : Bool) (source : Contents → DerivedSource) :
    P true (fun contents => Render.derivedAlias ⟨.generic, target.config⟩
      ⟨source contents, aliasName, columnNames, lateral⟩) false :=
  rules.offer_none .derivedAlias <| rules.append (rules.aliasText true named) <|
    rules.onlyIf (!columnNames.isEmpty) (Bool.le_refl false)
      (rules.anywhere false (rules.parens (rules.loose (rules.names false columns))))

theorem queryAlias (lateral : Bool) (nested : Contents → Query) :
    P true (fun contents => Render.derivedAlias target
      ⟨.query (nested contents), aliasName, columnNames, lateral⟩) false := by
  obtain ⟨dialect, config⟩ := target
  cases dialect with
  | generic => exact rules.standardAlias named columns lateral fun contents => .query (nested contents)
  | spanner => exact rules.offer_some .derivedAlias (rules.aliasText true named)

theorem callAlias (lateral : Bool) (call : FunctionCall) :
    P true (fun contents => Spanner.derivedAlias
      ⟨.function (call.revise contents.revision), aliasName, columnNames, lateral⟩) false := by
  obtain ⟨name, args, returnType⟩ := call
  match columnNames, columns with
  | [], _ => exact rules.aliasText true named
  | [column], columns =>
    by_cases unnest : name.toLower = "unnest"
    · simpa [Spanner.derivedAlias, Spanner.functionAlias, FunctionCall.revise, unnest] using
        rules.aliasText true (columns column List.mem_cons_self)
    · simpa [Spanner.derivedAlias, Spanner.functionAlias, FunctionCall.revise, unnest] using
        rules.fail (.functionColumns [column] name aliasName)
  | first :: second :: others, _ =>
    exact rules.fail (.functionColumns (first :: second :: others) name aliasName)

theorem functionAlias (lateral : Bool) (call : FunctionCall) :
    P true (fun contents => Render.derivedAlias target
      ⟨.function (call.revise contents.revision), aliasName, columnNames, lateral⟩) false := by
  obtain ⟨dialect, config⟩ := target
  cases dialect with
  | generic =>
    exact rules.standardAlias named columns lateral fun contents => .function (call.revise contents.revision)
  | spanner => exact rules.offer_some .derivedAlias (rules.callAlias named columns lateral call)

omit named in
theorem renamed {nested : Query} (composed : (Node.query nested).Composed Name P target) :
    P true (fun contents => RenderedQuery.renamed (nested.revise contents.revision)
      (Render.query target (nested.revise contents.revision)) columnNames) false := by
  simp only [RenderedQuery.renamed, Query.namesRefused?_revise]
  split
  · exact rules.fail _
  · exact rules.parens (rules.loose (composed { aliases := columnNames } columns))

omit named in
theorem queryPart {nested : Query} (composed : (Node.query nested).Composed Name P target) :
    P true (fun contents => Render.queryPart target (nested.revise contents.revision)
      (Render.query target (nested.revise contents.revision)) columnNames) false := by
  have renamed := rules.renamed columns composed
  have nested := rules.parens (rules.loose composed.alone)
  obtain ⟨dialect, config⟩ := target
  cases dialect with
  | generic => exact rules.offer_none .queryPart nested
  | spanner => exact rules.offer_some .queryPart renamed

theorem derivedQuery {nested : Query} {lateral : Bool} (composed : (Node.query nested).Composed Name P target) :
    (Node.table (.derived ⟨.query nested, aliasName, columnNames, lateral⟩)).Composed Name P target := by
  intro _ _
  have part := rules.queryPart columns composed
  have ownAlias := rules.queryAlias named columns lateral fun contents => nested.revise contents.revision
  have standard := rules.append (rules.append
    (rules.onlyIf lateral (Bool.le_refl false) (rules.anywhere false (rules.writes "lateral " (by decide))))
    (rules.anywhere false part)) (rules.anywhere false ownAlias)
  have unnested (answer : Family) (same : ∀ contents, Spanner.derivedTable
      ⟨.query (nested.revise contents.revision), aliasName, columnNames, true⟩
      (.query (nested.revise contents.revision) (Render.query target (nested.revise contents.revision))) =
        some (answer contents)) : P true answer false := by
    cases refused : nested.namesRefused? columnNames with
    | some cause =>
      have failed : answer = fun _ => .fail cause := by
        funext contents
        simpa [Spanner.derivedTable, Query.namesRefused?_revise, refused] using (same contents).symm
      rw [failed]
      exact rules.fail cause
    | none =>
      have array : answer = fun contents => .text "unnest(array("
          ++ (Render.query target (nested.revise contents.revision)).inScope ⟨true, columnNames⟩ ++ .text "))"
          ++ .aliasText aliasName := by
        funext contents
        simpa [Spanner.derivedTable, Query.namesRefused?_revise, refused, DerivedTable.aliasFragment] using
          (same contents).symm
      rw [array]
      exact rules.append (rules.append (rules.append (rules.word (by decide))
        (rules.loose (composed ⟨true, columnNames⟩ columns))) (rules.word (by decide)))
          (rules.aliasText false named)
  obtain ⟨dialect, config⟩ := target
  cases dialect with
  | generic => exact rules.loose (rules.offer_none .derivedTable standard)
  | spanner =>
    cases lateral with
    | true => exact rules.loose (rules.offer_some .derivedTable (unnested _ fun _ => rfl))
    | false => exact rules.loose (rules.offer_none .derivedTable standard)

theorem derivedFunction {call : FunctionCall} {lateral : Bool} (callee : Name call.name)
    (kind : ∀ node ∈ call.nodes, node.Composed Name P target) :
    (Node.table (.derived ⟨.function call, aliasName, columnNames, lateral⟩)).Composed Name P target := by
  intro _ _
  have rendered := rules.function callee kind
  have standard := rules.append (rules.append
    (rules.onlyIf lateral (Bool.le_refl false) (rules.anywhere false (rules.writes "lateral " (by decide))))
    (rules.anywhere false rendered))
    (rules.anywhere false (rules.functionAlias named columns lateral call))
  have bare := rules.append rendered
    (rules.anywhere false (rules.callAlias named columns true call))
  obtain ⟨dialect, config⟩ := target
  cases dialect with
  | generic => exact rules.loose (rules.offer_none .derivedTable standard)
  | spanner =>
    cases lateral with
    | true => exact rules.loose (rules.offer_some .derivedTable bare)
    | false => exact rules.loose (rules.offer_none .derivedTable standard)

end

theorem tableNode {from_ : TableRef} (named : ∀ name ∈ (Node.table from_).names, Name name)
    (kind : ∀ node ∈ from_.nodes, node.Composed Name P target) :
    (Node.table from_).Composed Name P target := by
  match from_ with
  | .named ⟨table, aliasName⟩ =>
    have own : ∀ name ∈ aliasName, Name name := fun name mem =>
      named name (List.mem_cons_of_mem _ (Option.mem_toList.mpr mem))
    intro _ _
    have written := rules.append (rules.name false (named table List.mem_cons_self)) (rules.table false table)
    exact rules.loose <| rules.append written <|
      rules.ifSome (Bool.le_refl false) fun name mem => rules.aliasText false (own name mem)
  | .derived ⟨.query nested, aliasName, columnNames, lateral⟩ =>
    exact rules.derivedQuery (named aliasName List.mem_cons_self)
      (fun name mem => named name (List.mem_cons_of_mem _ (List.mem_append_left _ mem)))
      (kind _ List.mem_cons_self)
  | .derived ⟨.function call, aliasName, columnNames, lateral⟩ =>
    exact rules.derivedFunction (named aliasName List.mem_cons_self)
      (fun name mem => named name (List.mem_cons_of_mem _ (List.mem_append_left _ mem)))
      (named call.name (List.mem_cons_of_mem _ (List.mem_append_right _ List.mem_cons_self))) kind

end Composes

end PortableSql
