import PortableSql.Proofs.PhraseQuery

/-! Every node is a phrase.

A comparison is a phrase in each form that it takes in Spanner, whose operands may be taken apart; so the nodes
below it are to be phrases, and not only those next to it. With predicates and statements this makes a phrase of
every node whose names are admitted (`Node.phrased`).
-/

set_option autoImplicit false

namespace PortableSql

namespace Render

open Spanner (Phrase)

variable {config : Config} {Name : String → Prop}

/-- An operand without the parentheses of a row. -/
theorem selected_phrased {e : Expr} (own : (Node.expr e).Phrased config Name)
    (items : ∀ node ∈ e.nodes, node.Phrased config Name) :
    Phrase config Name .loose (operand ⟨.spanner, config⟩ e).selected ((Node.expr e).mentionsIn .spanner) .tight := by
  cases e with
  | tuple items' =>
    refine (list_phrased items).congr ?_
    simp [Node.mentionsIn_eq .spanner (.expr _), Node.visits, Node.leading, Expr.nodes]
  | star | literal | column | parameter | arithmetic | function | window | subquery | summarization =>
    exact own.alone.loosen

theorem intersection_phrased {left right : Operand} {mentions mentions' : List Mark} (negated : Bool)
    (l : Phrase config Name .loose left.selected mentions .tight)
    (r : Phrase config Name .loose right.selected mentions' .tight) :
    Phrase config Name .loose (RowValue.intersection left negated right) (mentions ++ mentions') .tight := by
  have opening : Phrase config Name .loose (.onlyIf negated (.text "not ") ++ .text "exists (select ") [] .loose :=
    .denied negated (by decide)
  exact (((opening.append l).ahead (by decide)).append r).ahead (by decide)

theorem rowComparison_phrased (ls rs : List Expr) {op : ComparisonOp} (comparable : op.isDistinctness = false)
    (l : ∀ node ∈ ls.map Node.expr, node.Phrased config Name)
    (r : ∀ node ∈ rs.map Node.expr, node.Phrased config Name) :
    Phrase config Name .loose
      (rowComparison ⟨.spanner, config⟩ (ls.map (expr ⟨.spanner, config⟩)) (rs.map (expr ⟨.spanner, config⟩)) op)
      ((ls.map Node.expr).flatMap (Node.mentionsIn .spanner) ++
        (rs.map Node.expr).flatMap (Node.mentionsIn .spanner)) .tight := by
  rw [List.flatMap_map, List.flatMap_map]
  exact (Phrase.expand comparable (exprs_phrased l) (exprs_phrased r)).offered .rowComparison

theorem existence_phrased {row : List Expr} {nested : Query} {op : ComparisonOp} (negated : Bool)
    (comparable : op.isDistinctness = false) (core : ∀ node ∈ nested.core, node.Phrased config Name)
    (selected : ∀ node ∈ nested.selections.map (Node.expr ·.expr), node.Phrased config Name)
    (items : ∀ node ∈ row.map Node.expr, node.Phrased config Name) :
    Phrase config Name .loose
      (RowValue.existence (rowComparison ⟨.spanner, config⟩) (exprs ⟨.spanner, config⟩ row)
        (query ⟨.spanner, config⟩ nested).parts op negated)
      ((nested.core ++ nested.selections.map (Node.expr ·.expr) ++ row.map Node.expr).flatMap
        (Node.mentionsIn .spanner)) .tight := by
  simp only [Query.core, List.forall_mem_append] at core
  obtain ⟨⟨⟨sources, restricted⟩, grouped⟩, having⟩ := core
  have opening : Phrase config Name .loose (.onlyIf negated (.text "not ") ++ .text "exists (select 1") [] .tight :=
    .denied negated (by decide)
  have listed : Phrase config Name .tight (.onlyIf (!(nested.sources.map (group ⟨.spanner, config⟩)).isEmpty)
      (.text " from " ++ .separated "," (nested.sources.map (group ⟨.spanner, config⟩)))) _ .tight :=
    .unlessEmpty ((Phrase.separated .comma (groups_phrased sources)).behind (by decide))
  have inverted : op.invert.isDistinctness = false := by cases op <;> first | contradiction | rfl
  have compared := rowComparison_phrased (nested.selections.map fun selection => selection.expr) row inverted
    (by rwa [List.map_map]) items
  rw [List.map_map, List.map_map] at compared
  -- The condition of the query, in parentheses before the comparison.
  have guarded (restriction : Option Predicate)
      (phrased : ∀ node ∈ Predicate.visited restriction, node.Phrased config Name) :
      Phrase config Name .loose (.ifSome (condition ⟨.spanner, config⟩ restriction) fun fragment =>
        .text "(" ++ fragment ++ .text ") and ") _ .loose :=
    condition_phrased (fun _ _ own => (own.behind (by decide)).ahead (by decide)) phrased
  have testing : Joint.tight.Spells " where " .loose := by decide
  have closing : Joint.tight.Spells ")" .tight := by decide
  simp only [RowValue.existence, query_parts, selectionList_fst, exprs_eq_map, groups_eq_map]
  split
  · exact .fail _ _
  · by_cases aggregate : (!(partitionItems ⟨.spanner, config⟩ nested.groupBy).isEmpty || nested.having.isSome) = true
    · simp only [aggregate, if_true]
      have items : Phrase config Name .tight (RowValue.grouping (partitionItems ⟨.spanner, config⟩ nested.groupBy))
          (nested.groupBy.flatMap fun item => (Node.item item).mentionsIn .spanner) .tight := by
        rw [RowValue.grouping, partitionItems_eq_map]
        exact .listed (by decide) (partitionItems_phrased grouped)
      have word : Joint.tight.Spells " having " .loose := by decide
      have groups := ((restriction_phrased .restriction testing restricted).append items).ahead word
      refine (((((opening.append listed).append groups).append (guarded nested.having having)).append
        compared).ahead closing).congr fun mark => ?_
      simp only [Query.core, List.flatMap_append, List.mem_append, List.flatMap_map]
      grind
    · simp only [eq_false_of_ne_true aggregate, Bool.false_eq_true, if_false]
      simp only [Bool.or_eq_true, Bool.not_eq_true', not_or] at aggregate
      have ungrouped : nested.groupBy = [] := by simpa [partitionItems_eq_map] using aggregate.1
      have unhaving : nested.having = none := by simpa using aggregate.2
      have nothing : Predicate.visited none = [] := rfl
      refine (((((opening.append listed).ahead testing).append (guarded nested.restriction restricted)).append
        compared).ahead closing).congr fun mark => ?_
      simp only [Query.core, ungrouped, unhaving, nothing, List.flatMap_append, List.mem_append, List.flatMap_map,
        List.flatMap_nil, List.map_nil]
      grind

theorem form_phrased {left right : Expr} {op : ComparisonOp}
    (below : ∀ inner, (Node.predicate (.comparison left op right)).Below inner → inner.Phrased config Name) :
    Phrase config Name .loose ((Spanner.ComparisonForm.of left op right).fragment ⟨.spanner, config⟩)
      ((Spanner.ComparisonForm.of left op right).visits.flatMap (Node.mentionsIn .spanner)) .tight := by
  have onLeft : (Node.predicate (.comparison left op right)).Below (.expr left) :=
    Node.below_of_mem List.mem_cons_self
  have onRight : (Node.predicate (.comparison left op right)).Below (.expr right) :=
    Node.below_of_mem (List.mem_cons_of_mem _ List.mem_cons_self)
  have first : Phrase config Name .loose (expr ⟨.spanner, config⟩ left) _ .tight := (below _ onLeft).alone.loosen
  have second : Phrase config Name .distinct (expr ⟨.spanner, config⟩ right) _ .tight := (below _ onRight).alone
  have common (negated : Bool) :
      Phrase config Name .loose ((Spanner.ComparisonForm.intersection left right negated).fragment ⟨.spanner, config⟩)
        ((Spanner.ComparisonForm.intersection left right negated).visits.flatMap (Node.mentionsIn .spanner))
        .tight := by
    have l := selected_phrased (below _ onLeft) fun node mem => below node (onLeft.tail mem)
    have r := selected_phrased (below _ onRight) fun node mem => below node (onRight.tail mem)
    exact (intersection_phrased negated l r).congr (by simp [Spanner.ComparisonForm.visits])
  cases comparable : op.isDistinctness with
  | true =>
    have same : Spanner.ComparisonForm.of left op right = .intersection left right (op == .distinctFrom) :=
      if_pos comparable
    exact same ▸ common _
  | false =>
    refine Spanner.ComparisonForm.of_cases left op right
      (motive := fun form => Phrase config Name .loose (form.fragment ⟨.spanner, config⟩)
        (form.visits.flatMap (Node.mentionsIn .spanner)) .tight) (common _) ?membership ?existence ?rows ?native
    case membership =>
      rintro quantifier nested rfl
      have rows : Phrase config Name .loose _ _ .tight :=
        (below (.query nested) (onRight.tail List.mem_cons_self)).alone.parens .loose
      have spells : Joint.tight.Spells (if op == .ne then " not in " else " in ") .loose := by
        split <;> decide
      refine ((first.ahead spells).append rows).congr ?_
      simp [Spanner.ComparisonForm.visits]
    case existence =>
      rintro row quantifier nested rfl rfl _ _
      have inside (node : Node) (mem : node ∈ nested.visits) : node.Phrased config Name :=
        below node ((onRight.tail (List.mem_cons_self (a := Node.query nested))).tail (Node.mem_of_query mem))
      refine existence_phrased _ ?_ (fun node mem => inside node ?_) (fun node mem => inside node ?_)
        fun node mem => below node (onLeft.tail mem)
      · cases op <;> cases quantifier <;> first | contradiction | rfl
      · simp [Query.visits, mem]
      · simp only [Query.visits, List.mem_append]
        exact .inl (.inl (.inl (.inl mem)))
    case rows =>
      rintro row others rfl rfl _
      have compared := rowComparison_phrased row others comparable (fun node mem => below node (onLeft.tail mem))
        fun node mem => below node (onRight.tail mem)
      simp only [Spanner.ComparisonForm.fragment, exprs_eq_map]
      exact compared.congr (by simp [Spanner.ComparisonForm.visits])
    case native =>
      refine (Phrase.compare comparable first second).congr ?_
      simp [Spanner.ComparisonForm.visits]

/-- A pattern in lower case, or as it stands. -/
theorem unescaped_phrased {matched pattern : Fragment} {mentions mentions' : List Mark}
    (lower : Name config.lowercaseFunction) (caseSensitive negated : Bool)
    (first : Phrase config Name .distinct matched mentions .tight)
    (second : Phrase config Name .distinct pattern mentions' .tight) :
    Phrase config Name .loose (Pattern.unescaped config caseSensitive negated matched pattern) (mentions ++ mentions')
      .tight := by
  have word : Phrase config Name .tight (.onlyIf negated (.text " not")) [] .tight :=
    .silentIf negated (.words (by decide))
  have like : Joint.tight.Spells " like " .loose := by decide
  rw [Pattern.unescaped]
  split
  · exact (((((first.loosen.append word).ahead like).append second.loosen)).append (.nil _)).congr (by simp)
  · have name : Phrase config Name .loose (.text config.lowercaseFunction) [] .tight := (Phrase.name lower).loosen
    refine ((((((name.append (first.loosen.parens .tight)).append word).ahead like).append name).append
      (second.loosen.parens .tight)).append (.nil _)).congr ?_
    simp

theorem like_phrased {node : Like} (lower : Name config.lowercaseFunction)
    (first : (Node.expr node.expr).Phrased config Name) (second : (Node.expr node.pattern).Phrased config Name) :
    Phrase config Name .loose (predicate ⟨.spanner, config⟩ (.like node))
      ((Node.expr node.expr).mentionsIn .spanner ++ (Node.expr node.pattern).mentionsIn .spanner) .tight := by
  obtain ⟨matched, pattern, escape, caseSensitive, negated⟩ := node
  have plainly (caseSensitive : Bool) := unescaped_phrased lower caseSensitive negated first.alone second.alone
  show Phrase config Name _
    (.offer .like (Spanner.like config ⟨matched, pattern, escape, caseSensitive, negated⟩ _ _) _) _ _
  cases escape with
  | none =>
    cases caseSensitive with
    | true => exact (plainly true).standard .like
    | false => exact (plainly false).offered .like
  | some escape =>
    refine Phrase.offered .like ?_
    split
    · exact .fail _ _
    · split
      · exact plainly caseSensitive
      · split
        · exact .fail _ _
        · next text literal =>
          -- A pattern that is rewritten is a literal, which mentions nothing.
          have silent : (Node.expr pattern).mentionsIn .spanner = [] := by
            cases pattern with
            | literal => rw [Node.mentionsIn_eq]; rfl
            | star | column | parameter | arithmetic | function | window | tuple | subquery | summarization =>
              contradiction
          exact silent ▸ unescaped_phrased lower caseSensitive negated first.alone (.literal _)

theorem predicate_phrased {p : Predicate} (lower : Name config.lowercaseFunction)
    (below : ∀ inner, (Node.predicate p).Below inner → inner.Phrased config Name) :
    (Node.predicate p).Phrased config Name := by
  have visited (inner : Node) (mem : inner ∈ (Node.predicate p).visits .spanner) : inner.Phrased config Name :=
    below inner (Node.below_of_mem_visits mem)
  have tested (e : Expr) (mem : .expr e ∈ (Node.predicate p).visits .spanner) :
      Phrase config Name .loose (operand ⟨.spanner, config⟩ e).fragment ((Node.expr e).mentionsIn .spanner) .tight :=
    (visited (.expr e) mem).alone.loosen
  have rows (nested : Query) (mem : .query nested ∈ (Node.predicate p).visits .spanner) :
      Phrase config Name .loose (query ⟨.spanner, config⟩ nested).subquery ((Node.query nested).mentionsIn .spanner)
        .tight :=
    (visited (.query nested) mem).alone.parens .loose
  have written : Phrase config Name .loose (predicate ⟨.spanner, config⟩ p)
      ((p.visits .spanner).flatMap (Node.mentionsIn .spanner)) .tight := by
    cases p with
    | comparison left op right =>
      show Phrase config Name _ (.offer _ (some (Spanner.comparison _ _ _ _)) _) _ _
      rw [Spanner.ComparisonForm.comparison_eq]
      exact (form_phrased below).offered .comparison
    | inList test values negated =>
      cases values with
      | nil => exact .words (by cases negated <;> decide)
      | cons value values =>
        have list := list_phrased fun node (mem : node ∈ (value :: values).map .expr) => visited node (.tail _ mem)
        have spells : Joint.tight.Spells (if negated then " not in " else " in ") .loose := by
          cases negated <;> decide
        refine (((tested test (.head _)).ahead spells).append (list.parens .loose)).congr ?_
        simp [Predicate.visits, Predicate.nodes]
    | inSubquery test nested negated =>
      have spells : Joint.tight.Spells (if negated then " not in " else " in ") .loose := by
        cases negated <;> decide
      refine (((tested test (.head _)).ahead spells).append (rows nested (.tail _ (.head _)))).congr ?_
      simp [Predicate.visits, Predicate.nodes]
    | inArray test array =>
      have spells : Joint.tight.Spells " in unnest" .tight := by decide
      refine ((((tested test (.head _)).ahead spells).append
        ((tested array (.tail _ (.head _))).parens .tight)).offered .inArray).congr ?_
      simp [Predicate.visits, Predicate.nodes]
    | like node =>
      refine (like_phrased lower (visited _ (.head _)) (visited _ (.tail _ (.head _)))).congr ?_
      simp [Predicate.visits]
    | nullness test negated =>
      have spells : Joint.tight.Spells (if negated then " is not null" else " is null") .tight := by
        cases negated <;> decide
      refine ((tested test (.head _)).ahead spells).congr ?_
      simp [Predicate.visits, Predicate.nodes]
    | between test low high negated =>
      have spells : Joint.tight.Spells (if negated then " not between " else " between ") .loose := by
        cases negated <;> decide
      refine (((((tested test (.head _)).ahead spells).append (tested low (.tail _ (.head _)))).ahead
        (by decide)).append (tested high (.tail _ (.tail _ (.head _))))).congr ?_
      simp [Predicate.visits, Predicate.nodes]
    | existence nested negated =>
      refine ((Phrase.denied negated (by decide)).append (rows nested (.head _))).congr ?_
      simp [Predicate.visits, Predicate.nodes]
    | junction kind parts =>
      have spells : Joint.tight.Spells kind.separator .loose := by cases kind <;> decide
      show Phrase config Name _ (.separated kind.separator (junctionParts _ parts))
        (((parts.filter (!·.isEmpty)).map Node.predicate).flatMap _) _
      rw [junctionParts_eq_map, List.flatMap_map]
      refine .separated spells fun part mem => ?_
      have own : Phrase config Name .loose (predicate ⟨.spanner, config⟩ part) _ .tight :=
        (visited (.predicate part) (List.mem_map_of_mem mem)).alone
      split
      · exact own.parens .loose
      · exact own
    | negation inner =>
      have own : Phrase config Name .loose (predicate ⟨.spanner, config⟩ inner) _ .tight :=
        (visited (.predicate inner) (.head _)).alone
      refine ((own.parens .loose).behind (by decide)).congr ?_
      simp [Predicate.visits, Predicate.nodes]
  exact fun _ _ => written.congr (by simp [Node.mentionsIn_eq .spanner (.predicate p), Node.leading, Node.visits])

/-- The table of a change; in an insertion it has no alias. -/
theorem dmlTarget_phrased {table : NamedTable} (clause : Option Clause) (named : ∀ name ∈ table.names, Name name) :
    Phrase config Name .loose (dmlTarget ⟨.spanner, config⟩ clause table) [.table table.table] .tight := by
  obtain ⟨name, aliasName⟩ := table
  have title : Phrase config Name .tight
      (.onlyIf (clause != some .insert) (.ifSome aliasName .aliasText)) [] .tight := by
    refine .silentIf _ ?_
    cases aliasName with
    | none => exact .nil _
    | some aliasName => exact aliasText_phrased (named aliasName (.tail _ (.head _)))
  exact ((Phrase.table (named name (.head _))).append title).offered .dmlTarget

theorem returning_phrased {columns : List ColumnRef} (named : ∀ name ∈ columns.flatMap ColumnRef.names, Name name) :
    Phrase config Name .tight (returning columns) [] .tight := by
  have column (column : ColumnRef) (mem : column ∈ columns) :
      Phrase config Name .loose column.fragment [] .tight :=
    (column_phrased fun name own => named name (List.mem_flatMap.mpr ⟨column, mem, own⟩)).loosen
  have list : Phrase config Name .loose (.separated "," (columns.map (·.fragment))) [] .tight :=
    (Phrase.separated .comma column).congr (by simp)
  exact .silentIf _ ((list.behind (by decide)).inClause .returning)

theorem setClause_phrased {items : List Assignment} (named : ∀ name ∈ items.flatMap (·.column.names), Name name)
    (phrased : ∀ node ∈ items.map (Node.expr ·.value), node.Phrased config Name) :
    Phrase config Name .tight (setClause ⟨.spanner, config⟩ items)
      ((items.map (Node.expr ·.value)).flatMap (Node.mentionsIn .spanner)) .tight := by
  have assigned (item : Assignment) (mem : item ∈ items) :
      Phrase config Name .loose (.text item.column.name ++ .text "=" ++ expr ⟨.spanner, config⟩ item.value)
        ((Node.expr item.value).mentionsIn .spanner) .tight := by
    have column : Name item.column.name :=
      named _ (List.mem_flatMap.mpr ⟨item, mem, by simp [ColumnRef.names]⟩)
    have value : Phrase config Name .loose (expr ⟨.spanner, config⟩ item.value) _ .tight :=
      (phrased (.expr item.value) (List.mem_map_of_mem (f := (Node.expr ·.value)) mem)).alone.loosen
    exact ((Phrase.name column).loosen.ahead (by decide)).append value
  rw [List.flatMap_map]
  exact ((Phrase.separated .comma assigned).behind (by decide)).inClause .assignments

theorem insertSource_phrased {source : InsertSource} (phrased : ∀ node ∈ source.nodes, node.Phrased config Name) :
    Phrase config Name .loose (insertSource ⟨.spanner, config⟩ source)
      (source.nodes.flatMap (Node.mentionsIn .spanner)) .tight := by
  cases source with
  | values rows =>
    have row : ∀ row ∈ rows, Phrase config Name .loose (.parens (.separated "," (exprs ⟨.spanner, config⟩ row)))
        ((row.map Node.expr).flatMap (Node.mentionsIn .spanner)) .tight := fun row mem =>
      (list_phrased fun node below => phrased node (List.mem_flatMap.mpr ⟨row, mem, below⟩)).parens .loose
    rw [insertSource, InsertSource.nodes, List.flatMap_assoc]
    cases rows with
    | nil => exact .words (by decide)
    | cons => exact ((Phrase.separated .comma row).behind (by decide)).inClause .values
  | query nested =>
    have rows : Phrase config Name .loose ((query ⟨.spanner, config⟩ nested).inScope {}) _ .tight :=
      (phrased (.query nested) (.head _)).alone
    exact rows.congr (by simp [InsertSource.nodes])

theorem insert_phrased {change : Insert} (named : ∀ name ∈ (Node.statement (.insert change)).names, Name name)
    (phrased : ∀ node ∈ change.source.nodes, node.Phrased config Name) :
    Phrase config Name .loose (insert ⟨.spanner, config⟩ change)
      (.table change.target.table :: change.source.nodes.flatMap (Node.mentionsIn .spanner)) .tight := by
  obtain ⟨table, columns, source, conflict, returned⟩ := change
  simp only [Node.names, List.forall_mem_append] at named
  obtain ⟨⟨⟨tableNamed, columnsNamed⟩, _⟩, returnedNamed⟩ := named
  have target : Phrase config Name .loose _ _ .tight := dmlTarget_phrased (some .insert) tableNamed
  have names (joint : Joint) : Phrase config Name joint (.parens (.names columns)) [] .tight :=
    (Phrase.names columnsNamed).parens joint
  have blank : Joint.tight.Spells " " .loose := by decide
  have rows := insertSource_phrased phrased
  have returning : Phrase config Name .tight _ _ .tight := returning_phrased returnedNamed
  cases conflict with
  | none =>
    have words : Joint.loose.Spells "insert into " .loose := by decide
    have listed := (names .loose).behind blank
    have head := ((target.behind words).append (.silentIf (!columns.isEmpty) listed)).inClause .insert
    exact ((((head.ahead blank).append rows).append (.nil _)).append returning).congr (by simp)
  | some conflict =>
    refine Phrase.offered .insertWithConflict ?_
    show Phrase config Name _ (Spanner.insertWithConflict _ _ _ _ _) _ _
    rw [Spanner.insertWithConflict]
    split
    · exact .fail _ _
    · have words : Joint.loose.Spells
          (if conflict.action.isUpdate then "insert or update into " else "insert or ignore into ") .loose := by
        split <;> decide
      have listed := (target.behind words).append (.silentIf (!columns.isEmpty) (names .tight))
      have head := (listed.ahead blank).inClause .insert
      exact ((head.append rows).append returning).congr (by simp)

/-- A change and its restriction; without a restriction one is written that always holds. -/
theorem changed_phrased {head : Fragment} {mentions : List Mark} {columns : List ColumnRef} (construct : Construct)
    (guard : Option Predicate) (changed : Phrase config Name .loose head mentions .tight)
    (phrased : ∀ node ∈ Predicate.visited guard, node.Phrased config Name)
    (named : ∀ name ∈ columns.flatMap ColumnRef.names, Name name) :
    Phrase config Name .loose
      (.offer construct (Spanner.unrestricted guard head (returning columns))
        (head ++ restriction ⟨.spanner, config⟩ .restriction " where " guard ++ returning columns))
      (mentions ++ (Predicate.visited guard).flatMap (Node.mentionsIn .spanner)) .tight := by
  have columns : Phrase config Name .tight _ _ .tight := returning_phrased named
  rw [Spanner.unrestricted]
  split
  · have testing : Joint.tight.Spells " where " .loose := by decide
    have guarded := restriction_phrased .restriction testing phrased
    exact (((changed.append guarded).append columns).standard construct).congr (by simp)
  · next free =>
    have nothing : Predicate.visited guard = [] := by
      rw [Predicate.visited, Option.not_isSome_iff_eq_none.mp free]
      rfl
    rw [nothing]
    exact (((changed.ahead (by decide)).append columns).offered construct).congr (by simp)

theorem statement_phrased {change : Statement} (named : ∀ name ∈ (Node.statement change).names, Name name)
    (phrased : ∀ node ∈ change.visits .spanner, node.Phrased config Name) :
    (Node.statement change).Phrased config Name := by
  have written : Phrase config Name .loose (statement ⟨.spanner, config⟩ change)
      ((Node.statement change).leading ++ (change.visits .spanner).flatMap (Node.mentionsIn .spanner)) .tight := by
    cases change with
    | select nested =>
      have rows : Phrase config Name .loose ((query ⟨.spanner, config⟩ nested).inScope {}) _ .tight :=
        (phrased (.query nested) (.head _)).alone
      exact rows.congr (by simp [Statement.visits, Node.leading])
    | insert change => exact (insert_phrased named phrased).congr (by simp [Statement.visits, Node.leading])
    | update change =>
      simp only [Node.names, List.forall_mem_append] at named
      obtain ⟨⟨tableNamed, columnsNamed⟩, returnedNamed⟩ := named
      obtain ⟨values, guarded⟩ := List.forall_mem_append.mp phrased
      have target : Phrase config Name .loose _ _ .tight := dmlTarget_phrased (some .update) tableNamed
      have words : Joint.loose.Spells "update " .loose := by decide
      have head := ((target.behind words).inClause .update).append (setClause_phrased columnsNamed values)
      exact (changed_phrased .update change.restriction head guarded returnedNamed).congr
        (by simp [Statement.visits, Node.leading])
    | delete change =>
      simp only [Node.names, List.forall_mem_append] at named
      obtain ⟨tableNamed, returnedNamed⟩ := named
      have target : Phrase config Name .loose _ _ .tight := dmlTarget_phrased (some .delete) tableNamed
      have words : Joint.loose.Spells "delete from " .loose := by decide
      have head := (target.behind words).inClause .delete
      exact (changed_phrased .delete change.restriction head phrased returnedNamed).congr
        (by simp [Statement.visits, Node.leading])
  exact fun _ _ => written.congr (by simp [Node.mentionsIn_eq .spanner (.statement change), Node.visits])

/-- Every node is a phrase if the names in it are admitted. -/
theorem node_phrased (node : Node) (texts : ∀ text ∈ config.statementTexts, Name text)
    (named : ∀ inner, node.Within inner → ∀ name ∈ inner.names, Name name) : node.Phrased config Name := by
  induction node using Node.induction with
  | step node ih =>
    have below (inner : Node) (below : node.Below inner) : inner.Phrased config Name :=
      ih inner below fun deeper within => named deeper (below.to_reflTransGen.trans within)
    have visited (inner : Node) (mem : inner ∈ node.visits .spanner) : inner.Phrased config Name :=
      below inner (Node.below_of_mem_visits mem)
    have own : ∀ name ∈ node.names, Name name := named node .refl
    cases node with
    | statement change => exact statement_phrased own visited
    | query nested => exact query_phrased own visited
    | group from_ => exact group_phrased visited
    | table from_ => exact table_phrased own visited
    | predicate p => exact predicate_phrased (texts _ (by simp [Config.statementTexts])) below
    | expr e => exact expr_phrased texts own visited
    | item e => exact item_phrased (visited _ (.head _))

end Render

end PortableSql
