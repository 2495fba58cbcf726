import PortableSql.Proofs.ComposedNode
import PortableSql.Proofs.OwnContents
import PortableSql.Render.Piece

/-! Every piece is put together from the pieces of the renderer.

Most pieces are nodes of a statement. The others are parts of one that a dialect may put in another
place, and are put together from the nodes that they hold (`Piece.nodes`) and the names that stand
beside these (`Piece.names`). A piece has its own contents, so that its family is constant.
-/

set_option autoImplicit false

namespace PortableSql

/-- The names and words that a piece has beside its nodes. -/
def Piece.names : Piece → List String
  | .text words => [words]
  | .application name _ _ => [name]
  | .restriction _ keyword _ => [keyword]
  | .query _ scope => scope.aliases
  | .selectClause _ list scope | .selections list scope =>
    scope.aliases ++ list.flatMap (·.aliasName.toList)
  | .queryPart _ names | .renamed _ names => names
  | .derivedAlias node | .tableAlias node => node.names
  | .dmlTarget named | .standardDmlTarget named | .deleteClause named | .updateClause named => named.names
  | .returning columns => columns.flatMap ColumnRef.names
  | .assignments items | .setClause items => items.map (·.column.name)
  | .conflictClause conflict => conflict.names
  | .use _ | .parameter _ | .statement _ | .expr _ | .literal _ | .column _ | .arithmetic _ _ _
  | .standardArithmetic _ _ _ | .function _ | .window _ _ _ | .partitionItem _
  | .standardPartitionItem _ | .summarization _ _ | .sortItem _ | .predicate _ | .comparison _ _ _
  | .nativeComparison _ _ _ | .emulatedComparison _ _ _ | .rowComparison _ _ _
  | .rowExpansion _ _ _ _ | .inArray _ _ | .like _ | .standardLike _ | .loweredLike _ | .subquery _
  | .sources _ | .table _ | .offsetFetch _ | .limitOffset _ | .insertSource _ => []

/-- The nodes that a piece is, or is made of. -/
def Piece.nodes : Piece → List Node
  | .text _ | .use _ | .tableAlias _ | .derivedAlias _ | .dmlTarget _ | .standardDmlTarget _
  | .returning _ | .deleteClause _ | .updateClause _ => []
  | .parameter node => [.expr (.parameter node)]
  | .statement node => [.statement node]
  | .expr node => [.expr node]
  | .literal value => [.expr (.literal value)]
  | .column node => [.expr (.column node)]
  | .arithmetic left op right | .standardArithmetic left op right =>
    [.expr (.arithmetic left op right)]
  | .application _ left right => [.expr left, .expr right]
  | .function call => [.expr (.function call)]
  | .window call partitionBy orderBy => [.expr (.window call partitionBy orderBy)]
  | .partitionItem item | .standardPartitionItem item => [.item item]
  | .summarization kind groupings => [.expr (.summarization kind groupings)]
  | .sortItem item => [.expr item.expr]
  | .predicate node => [.predicate node]
  | .restriction _ _ node => node.toList.map .predicate
  | .comparison left op right | .nativeComparison left op right | .emulatedComparison left op right =>
    [.predicate (.comparison left op right)]
  | .rowComparison left right _ | .rowExpansion left right _ _ => left.map .expr ++ right.map .expr
  | .inArray test array => [.predicate (.inArray test array)]
  | .like node | .standardLike node | .loweredLike node => [.predicate (.like node)]
  | .query node _ | .subquery node | .queryPart node _ | .renamed node _ | .offsetFetch node
  | .limitOffset node => [.query node]
  | .selectClause _ list _ | .selections list _ => list.map (.expr ·.expr)
  | .sources groups => groups.map .group
  | .table node => [.table node]
  | .assignments items | .setClause items => items.map (.expr ·.value)
  | .insertSource source => source.nodes
  | .conflictClause conflict => conflict.nodes

theorem Node.revise_own (node : Node) : node.revise Contents.own.revision = node := by
  cases node with
  | statement node => exact congrArg Node.statement node.withContents_own
  | query node => exact congrArg Node.query node.revise_own
  | group node =>
    obtain ⟨primary, joined⟩ := node
    simp only [revise, TableGroup.revise, Contents.revision_below, Contents.below_own, TableRef.revise_own,
      reviseJoins_own]
  | table node => exact congrArg Node.table node.revise_own
  | predicate node => exact congrArg Node.predicate node.revise_own
  | expr node => exact congrArg Node.expr node.revise_own
  | item node => exact congrArg Node.item node.revise_own

theorem Spanner.ComparisonForm.revise_own (form : ComparisonForm) : form.revise Contents.own.revision = form := by
  cases form <;>
    simp only [revise, Contents.revision_below, Contents.below_own, Expr.revise_own, Query.revise_own,
      reviseExprs_own]

theorem Like.escape_mem (node : Like) {e : Expr} (present : e ∈ node.escape) :
    Node.expr e ∈ (Node.predicate (.like node)).children :=
  .tail _ (.tail _ (List.mem_map_of_mem (Option.mem_toList.mpr present)))

namespace Composes

variable {target : Target} {Name Content : String → Prop} {Takes : ArithmeticOp → Family → Prop}
  {P : Bool → Family → Bool → Prop} (rules : Composes target.config Name Content Takes P)

include rules

/-- A node with its own contents. -/
theorem written {node : Node} (composed : node.Composed Name P target) (scope : Scope)
    (named : ∀ name ∈ scope.aliases, Name name) :
    P node.startsWithWord (fun _ => node.fragment target scope) true := by
  simpa only [node.revise_own] using rules.own (composed scope named)

theorem alone {node : Node} (composed : node.Composed Name P target) :
    P node.startsWithWord (fun _ => node.fragment target {}) true :=
  rules.written composed {} fun _ mem => absurd mem List.not_mem_nil

theorem writtenExprs {items : List Expr} (kind : ∀ e ∈ items, (Node.expr e).Composed Name P target) :
    Each (Inside P) fun _ => Render.exprs target items := by
  simpa only [reviseExprs_own] using (rules.exprs kind).along fun _ => rules.own

theorem writtenOptional {value : Option Expr} (kind : ∀ e ∈ value, (Node.expr e).Composed Name P target) :
    Perhaps (Inside P) fun _ => Render.optional target value := by
  simpa only [reviseOptional_own] using (optional kind).along fun _ => rules.own

theorem writtenSelections {list : List Selection}
    (named : ∀ name ∈ list.flatMap (·.aliasName.toList), Name name)
    (kind : ∀ node ∈ list.map (Node.expr ·.expr), node.Composed Name P target) :
    Each (Selected Name P) fun _ => Render.selectionList target list := by
  have aliases (selection : Selection) (mem : selection ∈ list) :
      ∀ name ∈ selection.aliasName, Name name := fun name own =>
    named name (List.mem_flatMap.mpr ⟨selection, mem, Option.mem_toList.mpr own⟩)
  simpa only [reviseSelections_own] using
    (rules.selectionList aliases fun selection mem => kind _ (List.mem_map_of_mem mem)).along
      fun _ => Selected.along rules.own

theorem writtenAlias {table : DerivedTable} (named : ∀ name ∈ table.names, Name name) :
    P true (fun _ => Render.derivedAlias target table) false := by
  obtain ⟨source, aliasName, columnNames, lateral⟩ := table
  have own := named aliasName List.mem_cons_self
  have columns : ∀ name ∈ columnNames, Name name := fun name mem =>
    named name (List.mem_cons_of_mem _ (List.mem_append_left _ mem))
  cases source with
  | query nested => exact rules.queryAlias own columns lateral fun _ => nested
  | function call =>
    simpa only [FunctionCall.revise_own] using rules.own (rules.functionAlias own columns lateral call)

theorem writtenAssignments {items : List Assignment} (named : ∀ name ∈ items.map (·.column.name), Name name)
    (kind : ∀ node ∈ items.map (Node.expr ·.value), node.Composed Name P target) :
    P false (fun _ => Render.assignments target items) true := by
  have composed := rules.assignments items (fun item mem => named _ (List.mem_map_of_mem mem))
    fun item mem => kind _ (List.mem_map_of_mem mem)
  simpa only [Contents.each_own Revision.assignment_own] using rules.own composed

/-- A clause that begins with a keyword and the target of a change. -/
theorem changeClause {table : NamedTable} (clause : Clause) {keyword : String} (word : IsWord keyword)
    (named : ∀ name ∈ table.names, Name name) :
    P false (fun _ => .inClause clause (.text keyword ++ Render.dmlTarget target (some clause) table)) true :=
  rules.loose <| rules.inClause clause <|
    rules.append (rules.anywhere false (rules.word word)) (rules.dmlTarget (some clause) named)

/-- A piece composes, in any clause, if all is admitted that stands in it. -/
theorem piece (lowercase : Name target.config.lowercaseFunction) (piece : Piece) (clause : Option Clause)
    (named : ∀ name ∈ piece.names, Name name)
    (admitted : ∀ node ∈ piece.nodes, node.Admitted Name Content Takes target) :
    P false (fun _ => piece.fragment target clause) true := by
  have deep (node : Node) (mem : node ∈ piece.nodes) (inner : Node) (within : node.Within inner) :
      inner.Composed Name P target :=
    rules.node lowercase inner ((admitted node mem).within within)
  have kind (node : Node) (mem : node ∈ piece.nodes) : node.Composed Name P target := deep node mem node .refl
  have whole (node : Node) (mem : node ∈ piece.nodes) : P false (fun _ => node.fragment target {}) true :=
    rules.loose (rules.alone (kind node mem))
  have part (node : Node) (mem : node ∈ piece.nodes) (inner : Node) (child : inner ∈ node.children) :
      P false (fun _ => inner.fragment target {}) true :=
    rules.loose (rules.alone (deep node mem inner (.single child)))
  have deeper (nested : Query) (mem : .query nested ∈ piece.nodes) :
      ∀ node ∈ nested.nodes, node.Composed Name P target :=
    fun node child => deep (.query nested) mem node (.single child)
  cases piece with
  | text words => exact rules.loose (rules.name false (named words (.head _)))
  | use name => exact rules.loose (rules.table false name)
  | parameter node => exact whole (.expr (.parameter node)) (.head _)
  | statement node => exact whole (.statement node) (.head _)
  | expr node => exact whole (.expr node) (.head _)
  | literal value => exact whole (.expr (.literal value)) (.head _)
  | column node => exact whole (.expr (.column node)) (.head _)
  | arithmetic left op right => exact whole (.expr (.arithmetic left op right)) (.head _)
  | function call => exact whole (.expr (.function call)) (.head _)
  | window call partitionBy orderBy => exact whole (.expr (.window call partitionBy orderBy)) (.head _)
  | partitionItem item => exact whole (.item item) (.head _)
  | summarization summary groupings => exact whole (.expr (.summarization summary groupings)) (.head _)
  | predicate node => exact whole (.predicate node) (.head _)
  | comparison left op right => exact whole (.predicate (.comparison left op right)) (.head _)
  | inArray test array => exact whole (.predicate (.inArray test array)) (.head _)
  | like node =>
    obtain ⟨expr, pattern, escape, caseSensitive, negated⟩ := node
    exact whole (.predicate (.like ⟨expr, pattern, escape, caseSensitive, negated⟩)) (.head _)
  | table node => exact whole (.table node) (.head _)
  | standardArithmetic left op right =>
    have operand := (admitted _ (.head _)).operands left op right .refl
    have first := rules.below 0 (deep _ (.head _) (.expr left) (.single (.head _))).alone
    have second := rules.below 1 (deep _ (.head _) (.expr right) (.single (.tail _ (.head _)))).alone
    have own := rules.own (rules.standardArithmetic first op second operand)
    simp only [Contents.below_own, Node.revise_own] at own
    exact rules.loose own
  | application name left right =>
    have first := whole (.expr left) (.head _)
    have second := whole (.expr right) (.tail _ (.head _))
    exact rules.loose (rules.functionOf (named name (.head _)) (.cons first (.cons second .nil)))
  | standardPartitionItem item =>
    have plain := part (.item item) (.head _) (.expr item) (.head _)
    cases item with
    | literal value => exact rules.loose (rules.word (by decide))
    | star | column | parameter | arithmetic | function | window | tuple | subquery | summarization =>
      exact plain
  | sortItem item => exact rules.sortItem (whole (.expr item.expr) (.head _)) item.descending item.nulls
  | restriction inner keyword node =>
    have there : Perhaps (Inside P) fun _ => Render.condition target node := by
      simpa only [reviseCondition_own] using
        (condition fun p mem => kind (.predicate p) (List.mem_map_of_mem (Option.mem_toList.mpr mem))).along
          fun _ => rules.own
    exact rules.perhaps (Bool.false_le true) there fun _ piece =>
      rules.inClause inner (rules.append (rules.name false (named keyword (.head _))) piece)
  | nativeComparison left op right =>
    have first := part _ (.head _) (.expr left) (.head _)
    have second := part _ (.head _) (.expr right) (.tail _ (.head _))
    exact rules.compare first op second
  | emulatedComparison left op right =>
    have below (node : Node) (mem : node ∈ (Spanner.ComparisonForm.emulated left op right).parts) :=
      (Spanner.ComparisonForm.below_of_parts_emulated mem).to_reflTransGen
    have form := rules.form (.emulated left op right)
      (fun node mem => (admitted _ (.head _)).names node (below node mem))
      fun node mem inner within => deep _ (.head _) inner ((below node mem).trans within)
    have own := rules.own form
    simp only [Spanner.ComparisonForm.revise_own, ← Spanner.ComparisonForm.emulate_eq] at own
    exact own
  | rowComparison left right op =>
    exact rules.rowComparison op
      (rules.writtenExprs fun e mem => kind _ (List.mem_append_left _ (List.mem_map_of_mem mem)))
      (rules.writtenExprs fun e mem => kind _ (List.mem_append_right _ (List.mem_map_of_mem mem)))
  | rowExpansion left right op ranges =>
    exact rules.expand ranges op
      (rules.writtenExprs fun e mem => kind _ (List.mem_append_left _ (List.mem_map_of_mem mem)))
      (rules.writtenExprs fun e mem => kind _ (List.mem_append_right _ (List.mem_map_of_mem mem)))
  | standardLike node =>
    have escape := rules.writtenOptional fun e mem => deep _ (.head _) (.expr e) (.single (node.escape_mem mem))
    exact rules.standardMatch _ _ (part _ (.head _) (.expr node.expr) (.head _))
      (part _ (.head _) (.expr node.pattern) (.tail _ (.head _))) escape
  | loweredLike node =>
    have escape := rules.writtenOptional fun e mem => deep _ (.head _) (.expr e) (.single (node.escape_mem mem))
    exact rules.loweredMatch lowercase _ (part _ (.head _) (.expr node.expr) (.head _))
      (part _ (.head _) (.expr node.pattern) (.tail _ (.head _))) escape
  | query node scope => exact rules.loose (rules.written (kind (.query node) (.head _)) scope named)
  | subquery node => exact rules.loose (rules.parens (whole (.query node) (.head _)))
  | selectClause distinct list scope =>
    have aliases : ∀ name ∈ scope.aliases, Name name := fun name mem => named name (List.mem_append_left _ mem)
    exact rules.loose <| rules.selectClause distinct aliases <|
      rules.writtenSelections (fun name mem => named name (List.mem_append_right _ mem)) kind
  | selections list scope =>
    have aliases : ∀ name ∈ scope.aliases, Name name := fun name mem => named name (List.mem_append_left _ mem)
    exact rules.selections aliases <|
      rules.writtenSelections (fun name mem => named name (List.mem_append_right _ mem)) kind
  | sources groups =>
    refine rules.separated (by decide) ?_
    rw [Render.groups_eq_map]
    exact .fixed (List.forall_mem_map.mpr fun g mem => whole (.group g) (List.mem_map_of_mem mem))
  | queryPart node names =>
    have own := rules.own (rules.queryPart named (kind (.query node) (.head _)))
    simp only [Query.revise_own] at own
    exact rules.loose own
  | renamed node names =>
    have own := rules.own (rules.renamed named (kind (.query node) (.head _)))
    simp only [Query.revise_own] at own
    exact rules.loose own
  | derivedAlias table => exact rules.loose (rules.writtenAlias named)
  | tableAlias table => exact rules.loose (rules.aliasText true (named table.aliasName (.head _)))
  | offsetFetch node =>
    obtain ⟨_, _, _, _, _, _, offset, fetch⟩ := Query.forall_nodes.mp (deeper node (.head _))
    exact rules.loose (rules.offsetFetch (rules.writtenOptional offset) (rules.writtenOptional fetch))
  | limitOffset node =>
    obtain ⟨_, _, _, _, _, _, offset, fetch⟩ := Query.forall_nodes.mp (deeper node (.head _))
    exact rules.loose (rules.limitOffset (rules.writtenOptional offset) (rules.writtenOptional fetch))
  | dmlTarget table => exact rules.loose (rules.dmlTarget clause named)
  | standardDmlTarget table =>
    exact rules.loose (rules.append (rules.name false (named table.table (.head _))) (rules.table false table.table))
  | returning columns =>
    exact rules.loose <| rules.returning columns fun column mem name inner =>
      named name (List.mem_flatMap.mpr ⟨column, mem, inner⟩)
  | assignments items => exact rules.writtenAssignments named kind
  | setClause items =>
    exact rules.inClause .assignments <|
      rules.append (rules.anywhere false (rules.word (by decide))) (rules.writtenAssignments named kind)
  | insertSource source =>
    have own := rules.own (rules.insertSource kind)
    simp only [Revision.source_own] at own
    exact rules.loose own
  | conflictClause conflict =>
    have own := rules.own (rules.conflictClause named kind)
    simp only [Revision.conflict_own] at own
    exact rules.loose own
  | deleteClause table => exact rules.changeClause .delete (by decide) named
  | updateClause table => exact rules.changeClause .update (by decide) named

end Composes

end PortableSql
