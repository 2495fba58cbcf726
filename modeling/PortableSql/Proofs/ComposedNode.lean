import PortableSql.Proofs.ComparisonForm
import PortableSql.Proofs.ComposedQuery

/-! Every node is put together from the pieces of the renderer.

A comparison, a match and a change are taken in the form that the dialect gives them; the other nodes
are put together from the nodes below them as they stand. By induction over the nodes, what composes
(`Composes`) holds of every node in which all is admitted (`Composes.node`).
-/

set_option autoImplicit false

namespace PortableSql

/-- The texts of a configuration that may stand in a statement. -/
def Config.statementTexts (config : Config) : List String :=
  [config.lowercaseFunction, config.typeName .double]

/-- Whether all that stands in a node and is not written by the renderer is admitted. -/
structure Node.Admitted (Name Content : String → Prop) (Takes : ArithmeticOp → Family → Prop)
    (target : Target) (node : Node) : Prop where
  names (inner : Node) : node.Within inner → ∀ name ∈ inner.names, Name name
  strings (inner : Node) : node.Within inner → ∀ text ∈ inner.strings, Content text
  operands (left : Expr) (op : ArithmeticOp) (right : Expr) :
    node.Within (.expr (.arithmetic left op right)) →
      Takes op fun contents => Render.expr target (right.revise (contents.below 1).revision)

theorem Node.Admitted.within {Name Content : String → Prop} {Takes : ArithmeticOp → Family → Prop}
    {target : Target} {node inner : Node} (admitted : node.Admitted Name Content Takes target)
    (within : node.Within inner) : inner.Admitted Name Content Takes target where
  names deeper under := admitted.names deeper (within.trans under)
  strings deeper under := admitted.strings deeper (within.trans under)
  operands left op right under := admitted.operands left op right (within.trans under)

namespace Composes

variable {target : Target} {Name Content : String → Prop} {Takes : ArithmeticOp → Family → Prop}
  {P : Bool → Family → Bool → Prop} (rules : Composes target.config Name Content Takes P)

include rules

/-- What a comparison has of an operand: the operand itself, and the operand without the brackets of a
row value. -/
theorem selected {e : Expr} (kind : ∀ node, (Node.expr e).Within node → node.Composed Name P target) :
    P false (fun contents => (Render.operand target (e.revise contents.revision)).selected) true := by
  cases e with
  | tuple items =>
    exact rules.separated (by decide)
      (rules.exprs fun item mem => kind (.expr item) (.single (List.mem_map_of_mem mem)))
  | star | literal | column | parameter | arithmetic | function | window | subquery
  | summarization => exact (kind (.expr _) .refl).alone

/-- A comparison in one of the forms of Spanner. -/
theorem form (form : Spanner.ComparisonForm)
    (named : ∀ node ∈ form.parts, ∀ name ∈ node.names, Name name)
    (kind : ∀ node ∈ form.parts, ∀ inner, node.Within inner → inner.Composed Name P target) :
    P false (fun contents => (form.revise contents.revision).fragment target) true := by
  have own (node : Node) (mem : node ∈ form.parts) : node.Composed Name P target := kind node mem node .refl
  cases form with
  | membership left nested negated =>
    have tested := rules.below 0 (own (.expr left) List.mem_cons_self).alone
    have rows := (own (.query nested) (List.mem_cons_of_mem _ List.mem_cons_self)).alone
    exact rules.loose <| rules.append (rules.append tested (rules.words true (by split <;> decide)))
      (rules.below 1 (rules.parens (rules.loose rows)))
  | intersection left right negated =>
    have first := rules.below 0 (rules.selected (kind (.expr left) List.mem_cons_self))
    have second := rules.below 1
      (rules.selected (kind (.expr right) (List.mem_cons_of_mem _ List.mem_cons_self)))
    exact rules.intersection negated first second
  | rows left right op =>
    have first := rules.eachBelow 0 <| rules.exprs fun e mem =>
      own (.expr e) (List.mem_append_left _ (List.mem_map_of_mem mem))
    have second := rules.eachBelow 1 <| rules.exprs fun e mem =>
      own (.expr e) (List.mem_append_right _ (List.mem_map_of_mem mem))
    exact rules.rowComparison op first second
  | existence row nested op negated =>
    have parts := rules.partsBelow 1 <| rules.queryParts (named (.query nested) List.mem_cons_self)
      fun node mem => kind (.query nested) List.mem_cons_self node (.single mem)
    have elements := rules.eachBelow 0 <| rules.exprs fun e mem =>
      own (.expr e) (List.mem_cons_of_mem _ (List.mem_map_of_mem mem))
    exact rules.existence op negated parts (rules.rowComparison _ parts.selections.fragments elements)
  | native left op right =>
    have first := (own (.expr left) List.mem_cons_self).alone
    have second := (own (.expr right) (List.mem_cons_of_mem _ List.mem_cons_self)).alone
    exact rules.compare (rules.below 0 first) op (rules.below 1 second)

theorem comparison {left : Expr} {op : ComparisonOp} {right : Expr}
    (named : ∀ node, (Node.predicate (.comparison left op right)).Below node →
      ∀ name ∈ node.names, Name name)
    (kind : ∀ node, (Node.predicate (.comparison left op right)).Below node →
      node.Composed Name P target) :
    (Node.predicate (.comparison left op right)).Composed Name P target := by
  intro _ _
  have form := rules.form (.of left op right)
    (fun node mem => named node (Spanner.ComparisonForm.below_of_parts mem))
    fun node mem inner within => kind inner ((Spanner.ComparisonForm.below_of_parts mem).trans_left within)
  have onLeft := (kind (.expr left) (.single List.mem_cons_self)).alone
  have onRight := (kind (.expr right) (.single (List.mem_cons_of_mem _ List.mem_cons_self))).alone
  obtain ⟨dialect, config⟩ := target
  cases dialect with
  | generic =>
    exact rules.offer_none .comparison (rules.compare (rules.below 0 onLeft) op (rules.below 1 onRight))
  | spanner =>
    simp only [← Spanner.ComparisonForm.of_revise, ← Spanner.ComparisonForm.comparison_eq] at form
    exact rules.offer_some .comparison form

theorem standardMatch {matched pattern : Family} {escape : Contents → Option Fragment}
    (caseSensitive negated : Bool) (e : P false matched true) (p : P false pattern true)
    (escaped : Perhaps (Inside P) escape) :
    P false (fun contents => Pattern.standard caseSensitive negated (matched contents) (pattern contents)
      (escape contents)) true :=
  rules.append (rules.append (rules.append (rules.append e
    (rules.onlyIf negated (Bool.le_refl true) (rules.words true (by decide))))
    (rules.word (by cases caseSensitive <;> decide))) p)
    (rules.perhaps (Bool.le_refl true) escaped fun _ kind => rules.append (rules.word (by decide)) kind)

theorem loweredMatch {matched pattern : Family} {escape : Contents → Option Fragment}
    (lowercase : Name target.config.lowercaseFunction) (negated : Bool) (e : P false matched true)
    (p : P false pattern true) (escaped : Perhaps (Inside P) escape) :
    P false (fun contents => Pattern.lowered target.config negated (matched contents) (pattern contents)
      (escape contents)) true :=
  rules.loose <| rules.append (rules.append (rules.append (rules.append (rules.append (rules.append
    (rules.name true lowercase) (rules.parens e))
    (rules.onlyIf negated (Bool.le_refl false) (rules.words false (by decide))))
    (rules.words false (by decide))) (rules.name false lowercase)) (rules.anywhere false (rules.parens p)))
    (rules.perhaps (Bool.false_le true) escaped fun _ kind =>
      rules.append (rules.words false (by decide)) kind)

theorem unescapedMatch {matched pattern : Family} (lowercase : Name target.config.lowercaseFunction)
    (caseSensitive negated : Bool) (e : P false matched true) (p : P false pattern true) :
    P false (fun contents => Pattern.unescaped target.config caseSensitive negated (matched contents)
      (pattern contents)) true := by
  cases caseSensitive with
  | true => exact rules.standardMatch true negated e p (.inl rfl)
  | false => exact rules.loweredMatch lowercase negated e p (.inl rfl)

theorem like {node : Like} (lowercase : Name target.config.lowercaseFunction)
    (strings : ∀ child ∈ node.nodes, ∀ text ∈ child.strings, Content text)
    (kind : ∀ child ∈ node.nodes, child.Composed Name P target) :
    (Node.predicate (.like node)).Composed Name P target := by
  intro _ _
  obtain ⟨matched, pattern, escape, caseSensitive, negated⟩ := node
  have content (text : String) (same : pattern.string? = some text) : Content text := by
    obtain rfl := Expr.string?_eq_some.mp same
    exact strings _ (List.mem_cons_of_mem _ List.mem_cons_self) text List.mem_cons_self
  have e := (kind (.expr matched) List.mem_cons_self).alone
  have p := (kind (.expr pattern) (List.mem_cons_of_mem _ List.mem_cons_self)).alone
  cases escape with
  | none =>
    have e := rules.below 0 e
    have p := rules.below 1 p
    have absent : Perhaps (Inside P) fun _ => none := .inl rfl
    have standard := rules.standardMatch caseSensitive negated e p absent
    have unescaped := rules.unescapedMatch lowercase caseSensitive negated e p
    obtain ⟨dialect, config⟩ := target
    cases dialect with
    | generic => exact rules.offer_none .like standard
    | spanner =>
      cases caseSensitive with
      | true => exact rules.offer_none .like standard
      | false => exact rules.offer_some .like unescaped
  | some escape =>
    have escapeMem : Node.expr escape ∈ Like.nodes ⟨matched, pattern, some escape, caseSensitive, negated⟩ :=
      List.mem_cons_of_mem _ (List.mem_cons_of_mem _ List.mem_cons_self)
    have c := (kind (.expr escape) escapeMem).alone
    have e := rules.own e
    have p := rules.own p
    have standard := rules.standardMatch caseSensitive negated e p (.inr ⟨_, rfl, rules.own c⟩)
    have rewritten (answer : Fragment) (same : Spanner.like target.config
        ⟨matched.revise Contents.own.revision, pattern.revise Contents.own.revision,
          some (escape.revise Contents.own.revision), caseSensitive, negated⟩
        (Render.expr target (matched.revise Contents.own.revision))
        (Render.expr target (pattern.revise Contents.own.revision)) = some answer) :
        P false (fun _ => answer) true := by
      obtain rfl := Option.some.inj same
      split
      · exact rules.loose (rules.fail _)
      · split
        · exact rules.unescapedMatch lowercase caseSensitive negated e p
        · split
          · exact rules.loose (rules.fail _)
          · next text read =>
            have kept : (pattern.revise Contents.own.revision).string? = pattern.string? :=
              pattern.string?_revise fun _ => rfl
            have admitted : Content text := content text (kept.symm.trans read)
            exact rules.unescapedMatch lowercase caseSensitive negated e
              (rules.literal (rules.backslashed _ admitted))
    obtain ⟨dialect, config⟩ := target
    cases dialect with
    | generic => exact rules.offer_none .like standard
    | spanner => exact rules.offer_some .like (rewritten _ rfl)

theorem junctionParts {parts : List Predicate}
    (kind : ∀ p ∈ parts, (Node.predicate p).Composed Name P target) :
    Each (Inside P) fun contents =>
      Render.junctionParts target (revisePredicates contents.revision parts) := by
  simp only [revisePredicates_eq, Render.junctionParts_eq_flatMap]
  exact Each.flatMap_each (fun branch _ => rules.below branch) fun p mem =>
    rules.junctionPart p (kind p mem).alone

theorem predicate {p : Predicate} (lowercase : Name target.config.lowercaseFunction)
    (named : ∀ node, (Node.predicate p).Below node → ∀ name ∈ node.names, Name name)
    (strings : ∀ child ∈ p.nodes, ∀ text ∈ child.strings, Content text)
    (kind : ∀ node, (Node.predicate p).Below node → node.Composed Name P target) :
    (Node.predicate p).Composed Name P target := by
  have own (child : Node) (mem : child ∈ p.nodes) : child.Composed Name P target := kind child (.single mem)
  have operand (e : Expr) (mem : Node.expr e ∈ p.nodes) :
      P false (fun contents => Render.expr target (e.revise contents.revision)) true := (own _ mem).alone
  have subquery (nested : Query) (mem : Node.query nested ∈ p.nodes) :
      P true (fun contents => (Render.query target (nested.revise contents.revision)).subquery) false :=
    rules.parens (rules.loose (own _ mem).alone)
  cases p with
  | comparison left op right => exact rules.comparison named kind
  | like node => exact rules.like lowercase strings own
  | inList test values negated =>
    intro _ _
    have listed := rules.exprs fun e mem => own _ (List.mem_cons_of_mem _ (List.mem_map_of_mem mem))
    exact rules.inList (rules.below 0 (operand test List.mem_cons_self)) (rules.eachBelow 1 listed) negated
  | inSubquery test nested negated =>
    intro _ _
    exact rules.loose <| rules.append
      (rules.append (rules.below 0 (operand test List.mem_cons_self))
        (rules.words true (by cases negated <;> decide)))
      (rules.below 1 (subquery nested (List.mem_cons_of_mem _ List.mem_cons_self)))
  | inArray test array =>
    intro _ _
    exact rules.inArray (rules.below 0 (operand test List.mem_cons_self))
      (rules.below 1 (operand array (List.mem_cons_of_mem _ List.mem_cons_self)))
  | nullness tested negated =>
    intro _ _
    exact rules.append (operand tested List.mem_cons_self) (rules.words true (by cases negated <;> decide))
  | between tested low high negated =>
    intro _ _
    exact rules.append (rules.append (rules.append (rules.append
      (rules.below 0 (operand tested List.mem_cons_self)) (rules.word (by cases negated <;> decide)))
      (rules.below 1 (operand low (by simp [Predicate.nodes])))) (rules.word (by decide)))
      (rules.below 2 (operand high (by simp [Predicate.nodes])))
  | existence nested negated =>
    intro _ _
    exact rules.loose <| rules.append
      (rules.append (rules.onlyIf negated (Bool.le_refl true) (rules.words true (by decide)))
        (rules.word (by decide)))
      (rules.anywhere false (subquery nested List.mem_cons_self))
  | junction connective parts =>
    intro _ _
    exact rules.separated (by cases connective <;> decide)
      (rules.junctionParts fun part mem => own _ (List.mem_map_of_mem mem))
  | negation inner =>
    intro _ _
    exact rules.loose <| rules.append (rules.word (by decide))
      (rules.anywhere false (rules.parens (own _ List.mem_cons_self).alone))

theorem columnRef (edge : Bool) {column : ColumnRef} (named : ∀ name ∈ column.names, Name name) :
    P edge (fun _ => column.fragment) edge := by
  have qualifier : ∀ qualifier ∈ column.qualifier, Name qualifier := fun name mem =>
    named name (List.mem_append_left _ (Option.mem_toList.mpr mem))
  have own : Name column.name := named _ (List.mem_append_right _ List.mem_cons_self)
  refine rules.append (rules.ifSome (Bool.le_refl edge) fun name mem => ?_) (rules.name edge own)
  exact rules.append (rules.name edge (qualifier name mem)) (rules.words edge (by decide))

theorem expr {e : Expr} (named : ∀ name ∈ (Node.expr e).names, Name name)
    (strings : ∀ text ∈ (Node.expr e).strings, Content text)
    (operand : ∀ left op right, e = .arithmetic left op right →
      Takes op fun contents => Render.expr target (right.revise (contents.below 1).revision))
    (kind : ∀ child ∈ e.nodes, child.Composed Name P target) :
    (Node.expr e).Composed Name P target := by
  intro _ _
  have rendered (e' : Expr) (mem : Node.expr e' ∈ e.nodes) :
      P false (fun contents => Render.expr target (e'.revise contents.revision)) true := (kind _ mem).alone
  cases e with
  | star => exact rules.loose (rules.word (by decide))
  | literal value =>
    cases value with
    | string text => exact rules.slot (strings text List.mem_cons_self)
    | null => exact rules.loose (rules.value .null (fun _ => Value.noConfusion))
    | bool value => exact rules.loose (rules.value (.bool value) (fun _ => Value.noConfusion))
    | int value => exact rules.loose (rules.value (.int value) (fun _ => Value.noConfusion))
    | float value => exact rules.loose (rules.value (.float value) (fun _ => Value.noConfusion))
    | date value => exact rules.loose (rules.value (.date value) (fun _ => Value.noConfusion))
    | timestamp value => exact rules.loose (rules.value (.timestamp value) (fun _ => Value.noConfusion))
  | column column => exact rules.loose (rules.columnRef false named)
  | parameter parameter => exact rules.loose (rules.placeholder parameter)
  | arithmetic left op right =>
    exact rules.loose (rules.arithmetic left op right (rules.below 0 (rendered left List.mem_cons_self))
      (rules.below 1 (rendered right (List.mem_cons_of_mem _ List.mem_cons_self))) (operand left op right rfl))
  | function call => exact rules.loose (rules.function (named call.name List.mem_cons_self) kind)
  | window call partitionBy orderBy =>
    have args := rules.function (named call.name List.mem_cons_self) fun node mem =>
      kind node (List.mem_append_left _ (List.mem_append_left _ mem))
    have partitions := rules.partitionItems fun e mem =>
      kind _ (List.mem_append_left _ (List.mem_append_right _ (List.mem_map_of_mem mem)))
    have sorts := rules.sortItems fun item mem =>
      kind _ (List.mem_append_right _ (List.mem_map_of_mem mem))
    exact rules.loose
      (rules.window (rules.below 0 args) (rules.eachBelow 1 partitions) (rules.eachBelow 2 sorts))
  | tuple items =>
    exact rules.loose (rules.parens (rules.separated (by decide)
      (rules.exprs fun item mem => kind _ (List.mem_map_of_mem mem))))
  | subquery quantifier nested =>
    have rows := rules.parens (rules.loose ((kind (.query nested) List.mem_cons_self).alone))
    cases quantifier with
    | one => exact rules.loose rows
    | any | every =>
      exact rules.loose (rules.append (rules.word (by decide)) (rules.anywhere false rows))
  | summarization summary groupings =>
    have listed := rules.exprs fun item mem => kind (.expr item) (List.mem_map_of_mem mem)
    exact rules.loose (rules.append (rules.word (by cases summary <;> decide))
      (rules.anywhere false (rules.parens (rules.separated (by decide) listed))))

theorem item {e : Expr} (kind : (Node.expr e).Composed Name P target) :
    (Node.item e).Composed Name P target := by
  intro _ _
  have standard := kind.alone
  obtain ⟨dialect, config⟩ := target
  cases dialect with
  | generic =>
    cases e with
    | literal value => exact rules.offer_none .partitionItem (rules.loose (rules.word (by decide)))
    | star | column | parameter | arithmetic | function | window | tuple | subquery | summarization =>
      exact rules.offer_none .partitionItem standard
  | spanner =>
    cases e with
    | literal value => exact rules.offer_some .partitionItem rules.bucket
    | summarization summary groupings =>
      exact rules.offer_some .partitionItem (rules.loose (rules.fail (.summarization summary)))
    | star | column | parameter | arithmetic | function | window | tuple | subquery =>
      exact rules.offer_none .partitionItem standard

theorem dmlTarget (clause : Option Clause) {table : NamedTable} (named : ∀ name ∈ table.names, Name name) :
    P false (fun _ => Render.dmlTarget target clause table) false := by
  have written : P false (fun _ => .table table.table) false :=
    rules.append (rules.name false (named table.table List.mem_cons_self)) (rules.table false table.table)
  obtain ⟨dialect, config⟩ := target
  cases dialect with
  | generic => exact rules.offer_none .dmlTarget written
  | spanner =>
    refine rules.offer_some .dmlTarget (rules.append written ?_)
    refine rules.onlyIf _ (Bool.le_refl false) (rules.ifSome (Bool.le_refl false) fun name mem => ?_)
    exact rules.aliasText false (named name (List.mem_cons_of_mem _ (Option.mem_toList.mpr mem)))

theorem returning (columns : List ColumnRef) (named : ∀ column ∈ columns, ∀ name ∈ column.names, Name name) :
    P true (fun _ => Render.returning columns) true := by
  have listed : Each (Inside P) fun _ => columns.map ColumnRef.fragment := by
    refine ⟨columns.map fun column _ => column.fragment, ?_, ?_⟩
    · simp only [List.map_map, Function.comp_def]
    · exact List.forall_mem_map.mpr fun column mem => rules.loose (rules.columnRef false (named column mem))
  exact rules.onlyIf _ (Bool.le_refl true)
    (rules.inClause .returning (rules.listed (by decide) (by decide) listed))

theorem assignments (items : List Assignment) (named : ∀ item ∈ items, Name item.column.name)
    (kind : ∀ item ∈ items, (Node.expr item.value).Composed Name P target) :
    P false (fun contents =>
      Render.assignments target (contents.revision.each Revision.assignment items)) true :=
  rules.separated (by decide) <| Each.map_each (fun branch _ => rules.below branch) fun item mem =>
    rules.append (rules.append (rules.name false (named item mem)) (rules.words false (by decide)))
      (kind item mem).alone

theorem insertSource {source : InsertSource} (kind : ∀ node ∈ source.nodes, node.Composed Name P target) :
    P true (fun contents => Render.insertSource target (contents.revision.source source)) true := by
  cases source with
  | query nested => exact (kind (.query nested) List.mem_cons_self).alone
  | values rows =>
    have listed : Each (Inside P) fun contents =>
        (contents.revision.each reviseExprs rows).map fun row =>
          .parens (.separated "," (Render.exprs target row)) :=
      Each.map_each (fun branch _ => rules.below branch) fun row mem =>
        rules.loose <| rules.parens <| rules.separated (by decide) <| rules.exprs fun e inner =>
          kind _ (List.mem_flatMap.mpr ⟨row, mem, List.mem_map_of_mem inner⟩)
    cases rows with
    | nil => exact rules.closed (rules.writes "default values" (by decide))
    | cons row rows => exact rules.inClause .values (rules.listed (by decide) (by decide) listed)

theorem restrictionClause (clause : Clause) (restriction : Option Predicate)
    (kind : ∀ p ∈ restriction, (Node.predicate p).Composed Name P target) :
    P true (fun contents => Render.restriction target clause " where "
      (reviseCondition contents.revision restriction)) true :=
  rules.restriction clause " where " (by decide) (condition kind)

theorem conflictClause {conflict : Conflict} (named : ∀ name ∈ conflict.names, Name name)
    (kind : ∀ node ∈ conflict.nodes, node.Composed Name P target) :
    P true (fun contents => Render.conflictClause target (contents.revision.conflict conflict)) true := by
  obtain ⟨action, constraintName, columns, restriction⟩ := conflict
  have constraint : P true (fun _ => Render.constraint constraintName columns) true := by
    cases constraintName with
    | some name =>
      have onName := named name (by simp [Conflict.names])
      exact rules.append (rules.words true (by decide)) (rules.name true onName)
    | none =>
      refine rules.onlyIf _ (Bool.le_refl true) (rules.append (rules.words true (by decide)) ?_)
      refine rules.closed (rules.parens (rules.loose (rules.names false fun name mem => ?_)))
      exact named name (by simp [Conflict.names, mem])
  have opening := rules.append (rules.writes " on conflict" (by decide))
    (rules.anywhere false constraint)
  cases action with
  | doNothing => exact rules.inClause .conflict (rules.append opening (rules.words true (by decide)))
  | doUpdate items =>
    have assigned := rules.assignments items
      (fun item mem => named _ (List.mem_append_right _ (List.mem_flatMap.mpr
        ⟨item, mem, List.mem_append_right _ List.mem_cons_self⟩)))
      (fun item mem => kind _ (List.mem_append_left _ (List.mem_map_of_mem mem)))
    have restricted := rules.restrictionClause .restriction restriction fun p mem =>
      kind _ (List.mem_append_right _ (List.mem_map_of_mem (Option.mem_toList.mpr mem)))
    exact rules.inClause .conflict (rules.append opening (rules.append (rules.append (rules.word (by decide))
      (rules.below 0 assigned)) (rules.below 1 restricted)))

/-- The conflict clause in Spanner, which is a choice of words. -/
theorem insertWithConflict {change : Contents → Insert} {names : List String} {conflict : Conflict}
    {table rows columns : Family} (same : ∀ contents, (change contents).columns = names)
    (named : ∀ name ∈ names, Name name) (first : P false table false) (second : P true rows true)
    (third : P true columns true) :
    P true (fun contents => Spanner.insertWithConflict (change contents)
      ((contents.below 1).revision.conflict conflict) (table contents) (rows contents) (columns contents))
      true := by
  have refused (contents : Contents) : Spanner.conflictRefused? ((contents.below 1).revision.conflict conflict) =
      Spanner.conflictRefused? conflict :=
    Spanner.conflictRefused?_revise (fun _ _ => rfl) conflict
  have isUpdate (contents : Contents) :
      ((contents.below 1).revision.conflict conflict).action.isUpdate = conflict.action.isUpdate :=
    conflict.action.isUpdate_revise _
  simp only [Spanner.insertWithConflict, refused, isUpdate, same]
  split
  · exact rules.closed (rules.fail _)
  · have listed := rules.onlyIf (!names.isEmpty) (Bool.le_refl false)
      (rules.anywhere false (rules.parens (rules.loose (rules.names false named))))
    have words : IsWord
        (if conflict.action.isUpdate then "insert or update into " else "insert or ignore into ") := by
      split <;> decide
    have clause := rules.append (rules.append (rules.append (rules.word words) first) listed)
      (rules.anywhere false (rules.writes " " (by decide)))
    exact rules.append (rules.append (rules.inClause .insert clause) (rules.anywhere false second)) third

theorem insert {change : Insert} (named : ∀ name ∈ (Node.statement (.insert change)).names, Name name)
    (kind : ∀ node ∈ change.nodes, node.Composed Name P target) :
    (Node.statement (.insert change)).Composed Name P target := by
  intro _ _
  obtain ⟨table, columns, source, conflict, returned⟩ := change
  simp only [Node.names, List.mem_append, or_imp, forall_and] at named
  obtain ⟨⟨⟨onTable, onColumns⟩, onConflict⟩, onReturned⟩ := named
  have head := rules.dmlTarget (some .insert) onTable
  have rows := rules.below 0 (rules.insertSource fun node mem => kind node (List.mem_append_left _ mem))
  have columnsBack := rules.returning returned fun column mem name inner =>
    onReturned name (List.mem_flatMap.mpr ⟨column, mem, inner⟩)
  have columnList := rules.onlyIf (!columns.isEmpty) (Bool.le_refl false) <|
    rules.append (rules.anywhere false (rules.writes " " (by decide)))
      (rules.anywhere false (rules.parens (rules.loose (rules.names false onColumns))))
  have standard := rules.append (rules.append (rules.inClause .insert
    (rules.append (rules.append (rules.writes "insert into " (by decide)) head) columnList))
    (rules.anywhere false (rules.writes " " (by decide)))) (rules.anywhere false rows)
  cases conflict with
  | none => exact rules.append (rules.append standard (rules.nil true)) columnsBack
  | some conflict =>
    have clause := rules.below 1 <| rules.conflictClause
      (fun name mem => onConflict name (List.mem_flatMap.mpr ⟨conflict, List.mem_cons_self, mem⟩))
      fun node mem => kind node <|
        List.mem_append_right _ (List.mem_flatMap.mpr ⟨conflict, List.mem_cons_self, mem⟩)
    have standard := rules.append (rules.append standard clause) columnsBack
    obtain ⟨dialect, config⟩ := target
    cases dialect with
    | generic => exact rules.offer_none .insertWithConflict standard
    | spanner =>
      exact rules.offer_some .insertWithConflict
        (rules.insertWithConflict (fun _ => rfl) onColumns head rows columnsBack)

/-- A change that a dialect gives a restriction if it has none. -/
theorem unrestricted {construct : Construct} {restriction : Contents → Option Predicate} {restricts : Bool}
    {head columns standard : Family}
    (same : ∀ contents, Predicate.restricts (restriction contents) = restricts)
    (first : P true head true) (last : P true columns true) (otherwise : P true standard true) :
    P true (fun contents => .offer construct
      (Spanner.unrestricted (restriction contents) (head contents) (columns contents)) (standard contents))
      true := by
  simp only [Spanner.unrestricted, same]
  split
  · exact rules.offer_none construct otherwise
  · exact rules.offer_some construct (rules.append (rules.append first (rules.words true (by decide))) last)

theorem update {change : Update} (named : ∀ name ∈ (Node.statement (.update change)).names, Name name)
    (kind : ∀ node ∈ change.nodes, node.Composed Name P target) :
    (Node.statement (.update change)).Composed Name P target := by
  intro _ _
  obtain ⟨table, items, restriction, returned⟩ := change
  simp only [Node.names, List.mem_append, or_imp, forall_and] at named
  obtain ⟨⟨onTable, onItems⟩, onReturned⟩ := named
  have columnsBack := rules.returning returned fun column mem name inner =>
    onReturned name (List.mem_flatMap.mpr ⟨column, mem, inner⟩)
  have assigned := rules.below 0 <| rules.assignments items
    (fun item mem => onItems _ (List.mem_flatMap.mpr ⟨item, mem, List.mem_append_right _ List.mem_cons_self⟩))
    (fun item mem => kind _ (List.mem_append_left _ (List.mem_map_of_mem mem)))
  have restricted := rules.below 1 <| rules.restrictionClause .restriction restriction fun p mem =>
    kind _ (List.mem_append_right _ (List.mem_map_of_mem (Option.mem_toList.mpr mem)))
  have head := rules.append
    (rules.inClause .update (rules.append (rules.writes "update " (by decide))
      (rules.dmlTarget (some .update) onTable)))
    (rules.anywhere false (rules.inClause .assignments
      (rules.append (rules.writes " set " (by decide)) assigned)))
  have standard := rules.append (rules.append head restricted) columnsBack
  obtain ⟨dialect, config⟩ := target
  cases dialect with
  | generic => exact rules.offer_none .update standard
  | spanner =>
    exact rules.unrestricted (fun contents => (contents.below 1).restricts_revision restriction) head columnsBack
      standard

theorem delete {change : Delete} (named : ∀ name ∈ (Node.statement (.delete change)).names, Name name)
    (kind : ∀ node ∈ change.nodes, node.Composed Name P target) :
    (Node.statement (.delete change)).Composed Name P target := by
  intro _ _
  obtain ⟨table, restriction, returned⟩ := change
  simp only [Node.names, List.mem_append, or_imp, forall_and] at named
  obtain ⟨onTable, onReturned⟩ := named
  have columnsBack := rules.returning returned fun column mem name inner =>
    onReturned name (List.mem_flatMap.mpr ⟨column, mem, inner⟩)
  have restricted := rules.restrictionClause .restriction restriction fun p mem =>
    kind _ (List.mem_map_of_mem (Option.mem_toList.mpr mem))
  have head := rules.closed <| rules.inClause .delete <|
    rules.append (rules.writes "delete from " (by decide)) (rules.dmlTarget (some .delete) onTable)
  have standard := rules.append (rules.append head restricted) columnsBack
  obtain ⟨dialect, config⟩ := target
  cases dialect with
  | generic => exact rules.offer_none .delete standard
  | spanner =>
    exact rules.unrestricted (fun contents => contents.restricts_revision restriction) head columnsBack standard

/-- What composes holds of every node in which all is admitted. -/
theorem node (lowercase : Name target.config.lowercaseFunction) (node : Node)
    (admitted : node.Admitted Name Content Takes target) : node.Composed Name P target := by
  induction node using Node.induction with
  | step node ih =>
    have onOwn : ∀ name ∈ node.names, Name name := admitted.names node .refl
    have below (inner : Node) (under : node.Below inner) : ∀ name ∈ inner.names, Name name :=
      admitted.names inner under.to_reflTransGen
    have strings (child : Node) (mem : child ∈ node.children) : ∀ text ∈ child.strings, Content text :=
      admitted.strings child (.single mem)
    have deep (inner : Node) (under : node.Below inner) : inner.Composed Name P target :=
      ih inner under (admitted.within under.to_reflTransGen)
    have kind (child : Node) (mem : child ∈ node.children) : child.Composed Name P target :=
      deep child (.single mem)
    cases node with
    | statement change =>
      cases change with
      | select nested => exact fun _ _ => (kind (.query nested) List.mem_cons_self).alone
      | insert change => exact rules.insert onOwn kind
      | update change => exact rules.update onOwn kind
      | delete change => exact rules.delete onOwn kind
    | query nested => exact rules.query onOwn kind
    | group from_ => exact rules.group kind
    | table from_ => exact rules.tableNode onOwn kind
    | predicate p => exact rules.predicate lowercase below strings deep
    | expr e =>
      exact rules.expr onOwn (admitted.strings _ .refl)
        (fun left op right same => admitted.operands left op right (same ▸ .refl)) kind
    | item e => exact rules.item (kind (.expr e) List.mem_cons_self)

end Composes

end PortableSql
