import PortableSql.Proofs.WrittenOperand
import PortableSql.Render.Tree
import PortableSql.Writer.Tree

/-! Hooks, constructs and the traversal write their fragments.

Each hook answers what the dialect answers in a rendering to fragments, or leaves the writer alone; so every
construct writes its fragment if its parts do, and by induction over the syntax so does every expression,
predicate, query and table (`Writes.expr`, `Writes.predicate`, `Writes.query`, `Writes.table`).
-/

set_option autoImplicit false

namespace PortableSql

/-- Whether the source of a derived table writes the rendered one. -/
inductive Write.SourceAction.Renders (config : Config) : Write.SourceAction → RenderedSource → Prop
  | query {written : Write.ScopedQuery} {rendered : RenderedQuery} (query : Query) :
    written.Renders config rendered → Renders config (.query query written) (.query query rendered)
  | function {action : Action} {fragment : Fragment} (call : FunctionCall) : Writes config action fragment →
    Renders config (.function call action) (.function call fragment)

section

variable {config : Config} {action clause source columns l r test array expr pattern : Action}
  {fragment : Fragment} {clauseFragment sourceFragment columnsFragment f g t a e p : Fragment}

/-! Hooks -/

theorem AnswersIn.always {around : Option Clause} (writes : WritesIn config around action fragment) :
    AnswersIn config around (Write.Spanner.always action) (some fragment) := by
  intro writer here
  rw [Write.Spanner.always, Write.bind_apply, writes writer here]
  obtain ⟨marks, failure⟩ := fragment
  cases failure <;> rfl

namespace Answers

theorem always (writes : Writes config action fragment) :
    Answers config (Write.Spanner.always action) (some fragment) :=
  fun around => AnswersIn.always (writes around)

theorem partitionItem (item : Expr) :
    Answers config (Write.Spanner.partitionItem item) (Spanner.partitionItem item) := by
  cases item with
  | literal => exact always (.append _)
  | summarization kind => exact fail _
  | star | column | parameter | arithmetic | function | window | tuple | subquery => exact standard

theorem unrestricted (restriction : Option Predicate) (head : Writes config clause clauseFragment)
    (returned : Writes config columns columnsFragment) :
    Answers config (Write.Spanner.unrestricted restriction clause columns)
      (Spanner.unrestricted restriction clauseFragment columnsFragment) := by
  rw [Write.Spanner.unrestricted, Spanner.unrestricted]
  split
  · exact standard
  · rw [Fragment.append_assoc]
    exact always (head.seq ((Writes.append _).seq returned))

theorem like (node : Like) (matched : Writes config expr e) (against : Writes config pattern p) :
    Answers config (Write.Spanner.like config node expr pattern) (Spanner.like config node e p) := by
  have unescaped {other : Action} {rendered : Fragment} (writes : Writes config other rendered) :=
    Writes.unescapedMatch node.caseSensitive node.negated matched writes
  rw [Write.Spanner.like, Spanner.like]
  cases node.escape with
  | none =>
    simp only
    split
    · exact standard
    · exact always (unescaped against)
  | some escape =>
    refine always ?_
    rw [Write.Spanner.escapedLike]
    cases Pattern.escape? escape with
    | none => exact .fail _
    | some c =>
      simp only
      split
      · exact unescaped against
      · cases node.pattern.string? with
        | none => exact .fail _
        | some text => exact unescaped (.value (.string _))

theorem arithmetic (left : Expr) (op : ArithmeticOp) (right : Expr) (one : Writes config l f)
    (two : Writes config r g) :
    Answers config (Write.Spanner.arithmetic left op right l r) (Spanner.arithmetic left op right f g) := by
  rw [Write.Spanner.arithmetic, Spanner.arithmetic]
  split
  · refine always ((Writes.append "div").seq (Writes.parens ?_))
    rw [Fragment.append_assoc]
    exact one.seq ((Writes.append ",").seq two)
  · exact standard

/-- A hook answers in every dialect if it does in Spanner, for the generic dialect leaves every construct. -/
theorem ofSpanner {target : Target} (ask : Write.Hooks → Write Emission) (answer : Overrides → Option Fragment)
    (leaves : ask {} = pure .standard) (none : answer .none = none)
    (spanner : Answers target.config (ask Write.Spanner.hooks) (answer Spanner.overrides)) :
    Answers target.config (ask target.hooks) (answer target.overrides) := by
  obtain ⟨dialect, config⟩ := target
  cases dialect with
  | generic =>
    show Answers config (ask {}) (answer .none)
    rw [leaves, none]
    exact standard
  | spanner => exact spanner

end Answers

namespace Writes

variable {left right : Write.OperandAction} {lo ro : Operand}

theorem limitOffset {offset fetch : Option Action} {o c : Option Fragment} (start : WritesOptional config offset o)
    (count : WritesOptional config fetch c) :
    Writes config (Write.Spanner.limitOffset offset fetch) (Spanner.limitOffset o c) :=
  (ifSome count fun writes => inClause ((append " limit ").seq writes _)).seq
    (ifSome start fun writes => inClause ((append " offset ").seq writes _))

theorem spannerComparison {compareRows : Write.RowAction} {rendered : RowComparison}
    (rows : compareRows.Renders config rendered) (one : left.Renders config lo) (op : ComparisonOp)
    (two : right.Renders config ro) :
    Writes config (Write.Spanner.comparison compareRows left op right) (Spanner.comparison rendered lo op ro) := by
  have emulated := emulate rows one op two
  have membership (words : String) {query : Write.ScopedQuery} {other : RenderedQuery}
      (renders : query.Renders config other) :
      Writes config (do left.action; Write.append words; query.subquery)
        (lo.fragment ++ .text words ++ other.subquery) := by
    rw [Fragment.append_assoc]
    exact one.action.seq ((append words).seq renders.subquery)
  cases two with
  | plain | row => cases op <;> exact emulated
  | subquery quantifier query =>
    cases op with
    | eq =>
      cases quantifier with
      | any => exact membership " in " query
      | one | every => exact emulated
    | ne =>
      cases quantifier with
      | every => exact membership " not in " query
      | one | any => exact emulated
    | lt | lte | gt | gte | distinctFrom | notDistinctFrom => exact emulated

theorem spannerSelectClause (distinct : Bool) (scope : Scope) (list : Writes config action fragment) :
    Writes config (Write.Spanner.selectClause distinct scope action)
      (Spanner.selectClause distinct scope fragment) := by
  simp only [Spanner.selectClause, Fragment.append_assoc]
  exact (append "select ").seq ((onlyIf _ (append "as struct ")).seq ((onlyIf _ (append "distinct ")).seq list))

theorem spannerAlias (table : DerivedTable) :
    Writes config (Write.Spanner.derivedAlias table) (Spanner.derivedAlias table) := by
  rw [Write.Spanner.derivedAlias, Spanner.derivedAlias]
  cases table.source with
  | query => exact aliasText table.aliasName
  | function call =>
    simp only [Write.Spanner.functionAlias, Spanner.functionAlias]
    cases table.columnNames with
    | nil => exact aliasText table.aliasName
    | cons column rest =>
      cases rest with
      | nil =>
        simp only
        split
        · exact aliasText column
        · exact fail _
      | cons => exact fail _

theorem lateralTable {written : Write.SourceAction} {rendered : RenderedSource} (table : DerivedTable)
    (renders : written.Renders config rendered) :
    Answers config (Write.Spanner.derivedTable table written) (Spanner.derivedTable table rendered) := by
  unfold Write.Spanner.derivedTable Spanner.derivedTable
  split
  · refine .always ?_
    cases renders with
    | query query renders =>
      simp only [Write.Spanner.lateralTable]
      cases query.namesRefused? table.columnNames with
      | some cause => exact fail cause
      | none =>
        simp only [Fragment.append_assoc]
        exact (append "unnest(array(").seq ((renders.inScope _).seq ((append "))").seq (aliasText table.aliasName)))
    | function call writes => exact writes.seq (spannerAlias table)
  · exact .standard

theorem spannerTarget (around : Option Clause) (table : NamedTable) :
    WritesIn config around (Write.Spanner.dmlTarget table) (Spanner.dmlTarget around table) := by
  refine WritesIn.seq (tableName table.table around) fun writer here => ?_
  subst here
  exact onlyIf _ (ifSome_self table.aliasName aliasText) _ writer rfl

theorem spannerInsert (insert : Insert) (conflict : Conflict)
    (target : WritesIn config (some .insert) clause clauseFragment) (rows : Writes config source sourceFragment)
    (returned : Writes config columns columnsFragment) :
    Writes config (Write.Spanner.insertWithConflict insert conflict clause source columns)
      (Spanner.insertWithConflict insert conflict clauseFragment sourceFragment columnsFragment) := by
  rw [Write.Spanner.insertWithConflict, Spanner.insertWithConflict]
  cases Spanner.conflictRefused? conflict with
  | some cause => exact fail cause
  | none =>
    have list : Writes config (Write.onlyIf (!insert.columns.isEmpty) (Write.parens (Write.names insert.columns)))
        (.onlyIf (!insert.columns.isEmpty) (.parens (.names insert.columns))) :=
      onlyIf _ (parens (names insert.columns))
    simp only [Fragment.append_assoc]
    exact (inClause ((append _ _).seq (target.seq ((list _).seq (append " " _))))).seq (rows.seq returned)

theorem spannerInArray (one : Writes config test t) (two : Writes config array a) :
    Writes config (Write.Spanner.inArray test array) (t ++ .text " in unnest" ++ .parens a) := by
  rw [Fragment.append_assoc]
  exact one.seq ((append " in unnest").seq two.parens)

end Writes

end

/-! Constructs -/

namespace Writes

variable {target : Target} {action l r test array expr pattern : Action} {fragment f g t a e p : Fragment}
  {actions : List Action} {fragments : List Fragment}

theorem functionOf {config : Config} (name : String) (args : WritesAll config actions fragments) :
    Writes config (Write.functionOf name actions) (Render.functionOf name fragments) :=
  (append name).seq (separated "," args).parens

theorem standardArithmetic {config : Config} (one : Writes config l f) (op : ArithmeticOp)
    (two : Writes config r g) :
    Writes config (Write.standardArithmetic l op r) (Render.standardArithmetic f op g) := by
  rw [Write.standardArithmetic, Render.standardArithmetic]
  split
  · exact functionOf "mod" (.cons one (.cons two .nil))
  · rw [Fragment.append_assoc]
    exact parens (one.seq ((append op.text).seq two))

theorem arithmetic (left : Expr) (op : ArithmeticOp) (right : Expr) (one : Writes target.config l f)
    (two : Writes target.config r g) :
    Writes target.config (Write.arithmetic target left op right l r)
      (Render.arithmetic target left op right f g) := by
  refine offer .arithmetic ?_ (standardArithmetic one op two)
  exact .ofSpanner (·.arithmetic left op right _ _) (·.arithmetic left op right _ _) rfl rfl
    (.arithmetic left op right one two)

theorem standardPartitionItem {config : Config} (item : Expr) (writes : Writes config action fragment) :
    Writes config (Write.standardPartitionItem item action) (Render.standardPartitionItem item fragment) := by
  cases item with
  | literal => exact append "()"
  | star | column | parameter | arithmetic | function | window | tuple | subquery | summarization => exact writes

theorem partitionItem (item : Expr) (writes : Writes target.config action fragment) :
    Writes target.config (Write.partitionItem target item action) (Render.partitionItem target item fragment) := by
  refine offer .partitionItem ?_ (standardPartitionItem item writes)
  exact .ofSpanner (·.partitionItem item) (·.partitionItem item) rfl rfl (.partitionItem item)

theorem sortItem {config : Config} (writes : Writes config action fragment) (descending : Bool)
    (nulls : Option NullPrecedence) :
    Writes config (Write.sortItem action descending nulls) (Render.sortItem fragment descending nulls) := by
  rw [Render.sortItem, Fragment.append_assoc]
  exact writes.seq ((onlyIf descending (append " desc")).seq (ifSome_self nulls fun _ => append _))

theorem window {config : Config} {partitions sorts : List Action} {partitionBy orderBy : List Fragment}
    (call : Writes config action fragment) (parts : WritesAll config partitions partitionBy)
    (items : WritesAll config sorts orderBy) :
    Writes config (Write.window action partitions sorts) (Render.window fragment partitionBy orderBy) := by
  have gap : Writes config (Write.onlyIf (!partitions.isEmpty && !sorts.isEmpty) (Write.append " "))
      (.onlyIf (!partitionBy.isEmpty && !orderBy.isEmpty) (.text " ")) := by
    rw [parts.isEmpty, items.isEmpty]
    exact onlyIf _ (append " ")
  simp only [Render.window, Fragment.append_assoc]
  exact call.seq ((append " over (").seq ((clause .partition "partition by " parts).seq (gap.seq
    ((clause .orderBy "order by " items).seq (append ")")))))

theorem rowComparison :
    Write.RowAction.Renders target.config (Write.rowComparison target) (Render.rowComparison target) := by
  intro left right l r op one two
  refine offer .rowComparison ?_ (expand false op one two)
  exact .ofSpanner (·.rowComparison left right op) (·.rowComparison l r op) rfl rfl (.always (expand true op one two))

theorem comparison {left right : Write.OperandAction} {lo ro : Operand} (one : left.Renders target.config lo)
    (op : ComparisonOp) (two : right.Renders target.config ro) :
    Writes target.config (Write.comparison target left op right) (Render.comparison target lo op ro) := by
  have rows : Write.RowAction.Renders target.config (Write.rowComparison target) (Render.rowComparison target) :=
    rowComparison
  refine offer .comparison ?_ (native one op two)
  exact .ofSpanner (·.comparison _ left op right) (·.comparison _ lo op ro) rfl rfl
    (.always (spannerComparison rows one op two))

theorem inList {config : Config} (tested : Writes config test t) (values : WritesAll config actions fragments)
    (negated : Bool) :
    Writes config (Write.inList test actions negated) (Render.inList t fragments negated) := by
  rw [Write.inList, Render.inList, values.isEmpty]
  split
  · exact append _
  · rw [Fragment.append_assoc]
    exact tested.seq ((append _).seq (separated "," values).parens)

theorem inArray (tested : Writes target.config test t) (values : Writes target.config array a) :
    Writes target.config (Write.inArray target test array) (Render.inArray target t a) := by
  have usual : Writes target.config (do test; Write.append "=any"; Write.parens array)
      (t ++ .text "=any" ++ .parens a) := by
    rw [Fragment.append_assoc]
    exact tested.seq ((append "=any").seq values.parens)
  refine offer .inArray ?_ usual
  exact .ofSpanner (·.inArray test array) (·.inArray t a) rfl rfl (.always (spannerInArray tested values))

theorem like {escape : Option Action} {c : Option Fragment} (node : Like) (matched : Writes target.config expr e)
    (against : Writes target.config pattern p) (escaped : WritesOptional target.config escape c) :
    Writes target.config (Write.like target node expr pattern escape) (Render.like target node e p c) := by
  refine offer .like ?_ (standardMatch node.caseSensitive node.negated matched against escaped)
  exact .ofSpanner (·.like _ node _ _ _) (·.like _ node _ _ _) rfl rfl (.like node matched against)

theorem junctionPart {config : Config} (part : Predicate) (writes : Writes config action fragment) :
    WritesAll config (Write.junctionPart part action) (Render.junctionPart part fragment) := by
  rw [Write.junctionPart, Render.junctionPart]
  split
  · exact .nil
  · split
    · exact .cons writes.parens .nil
    · exact .cons writes .nil

theorem aliased {config : Config} {list : List (Action × Option String)}
    {rendered : List (Fragment × Option String)}
    (each : List.Forall₂ (WritesSelection config) list rendered) (names : List String) :
    WritesAll config (Write.aliased list names) (Render.aliased rendered names) := by
  induction each generalizing names with
  | nil => exact .nil
  | @cons selection other _ _ head _ ih =>
    obtain ⟨action, own⟩ := selection
    obtain ⟨fragment, own'⟩ := other
    obtain ⟨writes, same⟩ := head
    cases same
    cases names with
    | nil => exact .cons (writes.seq (ifSome_self own aliasText)) (ih [])
    | cons forced names => exact .cons (writes.seq (aliasText forced)) (ih names)

theorem selections {config : Config} {list : List (Action × Option String)}
    {rendered : List (Fragment × Option String)} (scope : Scope)
    (each : List.Forall₂ (WritesSelection config) list rendered) :
    Writes config (Write.selections scope list) (Render.selections scope rendered) := by
  have same : list.isEmpty = rendered.isEmpty := by cases each <;> rfl
  rw [Write.selections, Render.selections, same]
  split
  · exact append "*"
  · exact separated "," (aliased each scope.aliases)

theorem selectClause {list : List (Action × Option String)} {rendered : List (Fragment × Option String)}
    (distinct : Bool) (scope : Scope) (each : List.Forall₂ (WritesSelection target.config) list rendered) :
    Writes target.config (Write.selectClause target distinct scope list)
      (Render.selectClause target distinct scope rendered) := by
  have all := selections scope each
  have usual : Writes target.config
      (do Write.append "select "; Write.onlyIf distinct (Write.append "distinct "); Write.selections scope list)
      (.text "select " ++ .onlyIf distinct (.text "distinct ") ++ Render.selections scope rendered) := by
    rw [Fragment.append_assoc]
    exact (append "select ").seq ((onlyIf distinct (append "distinct ")).seq all)
  refine offer .selectClause ?_ usual
  exact .ofSpanner (·.selectClause distinct scope _) (·.selectClause distinct scope _) rfl rfl
    (.always (spannerSelectClause distinct scope all))

theorem offsetFetch {offset fetch : Option Action} {o c : Option Fragment}
    (start : WritesOptional target.config offset o) (count : WritesOptional target.config fetch c) :
    Writes target.config (Write.offsetFetch target offset fetch) (Render.offsetFetch target o c) := by
  have usual : Writes target.config (Write.standardPaging offset fetch) (Render.standardPaging o c) := by
    simp only [Render.standardPaging, Fragment.append_assoc]
    exact (ifSome start fun writes => inClause ((append " offset ").seq (writes.seq (append " rows")) _)).seq
      (ifSome count fun writes => inClause ((append " fetch first ").seq (writes.seq (append " rows only")) _))
  refine offer .offsetFetch ?_ usual
  exact .ofSpanner (·.offsetFetch offset fetch) (·.offsetFetch o c) rfl rfl (.always (limitOffset start count))

theorem locking (lock : LockOptions) :
    Writes target.config (Write.locking target lock) (Render.locking target lock) := by
  have same : Write.lockStrategy target lock = Render.lockStrategy target lock := by
    obtain ⟨dialect, config⟩ := target
    cases dialect <;> rfl
  rw [Write.locking, Render.locking, same]
  exact (chooseLock _ _).seq (onlyIf _ (inClause ((append lock.mode.text).seq (append lock.wait.text) _)))

theorem queryInScope {parts : Write.QueryActions} {rendered : QueryParts}
    (renders : parts.Renders target.config rendered)
    (scope : Scope) :
    Writes target.config (Write.queryInScope target parts scope) (Render.queryInScope target rendered scope) := by
  simp only [Render.queryInScope, Fragment.append_assoc]
  rw [Write.queryInScope, renders.distinct, renders.lock]
  exact (inClause (selectClause rendered.distinct scope renders.selections _)).seq
    ((clause .sources " from " renders.sources).seq ((restriction .restriction " where " renders.restriction).seq
      ((grouping renders.groupBy).seq ((restriction .having " having " renders.having).seq
        ((clause .orderBy " order by " renders.orderBy).seq ((offsetFetch renders.offset renders.fetch).seq
          (ifSome_self rendered.lock locking)))))))

theorem queryOf {parts : Write.QueryActions} {rendered : QueryParts}
    (renders : parts.Renders target.config rendered) :
    (Write.queryOf target parts).Renders target.config (Render.queryOf target rendered) :=
  ⟨renders, queryInScope renders⟩

theorem queryPart {written : Write.ScopedQuery} {rendered : RenderedQuery} (query : Query)
    (renders : written.Renders target.config rendered) (names : List String) :
    Writes target.config (Write.queryPart target query written names)
      (Render.queryPart target query rendered names) := by
  refine offer .queryPart ?_ renders.subquery
  exact .ofSpanner (·.queryPart query written names) (·.queryPart query rendered names) rfl rfl
    (.always (renamed query renders names))

theorem derivedAlias (table : DerivedTable) :
    Writes target.config (Write.derivedAlias target table) (Render.derivedAlias target table) := by
  refine offer .derivedAlias ?_ ((aliasText table.aliasName).seq (onlyIf _ (parens (names table.columnNames))))
  exact .ofSpanner (·.derivedAlias table) (·.derivedAlias table) rfl rfl (.always (spannerAlias table))

theorem derivedTable {written : Write.SourceAction} {rendered : RenderedSource} (table : DerivedTable)
    (renders : written.Renders target.config rendered) :
    Writes target.config (Write.derivedTable target table written) (Render.derivedTable target table rendered) := by
  unfold Render.derivedTable
  refine offer .derivedTable ?_ ?_
  · exact .ofSpanner (·.derivedTable table written) (·.derivedTable table rendered) rfl rfl
      (lateralTable table renders)
  · rw [Fragment.append_assoc]
    refine (onlyIf table.lateral (append "lateral ")).seq (seq ?_ (derivedAlias table))
    cases renders with
    | query query renders => exact queryPart query renders table.columnNames
    | function call writes => exact writes

theorem join {config : Config} {on : Option Action} {condition : Option Fragment} (kind : JoinKind)
    (table : Writes config action fragment) (given : WritesOptional config on condition) :
    Writes config (Write.join kind action on) (Render.join kind fragment condition) := by
  rw [Render.join, Fragment.append_assoc]
  exact (append kind.text).seq (table.seq (ifSome given fun writes => (append " on ").seq writes))

end Writes

/-! The traversal -/

namespace Writes

variable {target : Target}

mutual

theorem operand : (e : Expr) → (Write.operand target e).Renders target.config (Render.operand target e)
  | .star => .plain (append "*")
  | .literal node => .plain (value node)
  | .column node => .plain (column node)
  | .parameter node => .plain (addParameter node)
  | .arithmetic left op right => .plain (arithmetic left op right (operand left).action (operand right).action)
  | .function call => .plain (function call)
  | .window call partitionBy orderBy =>
    .plain (window (function call) (partitionItems partitionBy) (sortItems orderBy))
  | .tuple items => .row (exprs items)
  | .subquery quantifier nested => .subquery quantifier (query nested)
  | .summarization kind groupings => .plain (functionOf kind.text (exprs groupings))

theorem exprs : (items : List Expr) → WritesAll target.config (Write.exprs target items) (Render.exprs target items)
  | [] => .nil
  | item :: rest => .cons (operand item).action (exprs rest)

theorem function : (call : FunctionCall) →
    Writes target.config (Write.function target call) (Render.function target call)
  | ⟨name, args, _⟩ => functionOf name (exprs args)

theorem partitionItems : (items : List Expr) →
    WritesAll target.config (Write.partitionItems target items) (Render.partitionItems target items)
  | [] => .nil
  | item :: rest => .cons (partitionItem item (operand item).action) (partitionItems rest)

theorem sortItems : (items : List SortItem) →
    WritesAll target.config (Write.sortItems target items) (Render.sortItems target items)
  | [] => .nil
  | ⟨item, descending, nulls⟩ :: rest => .cons (sortItem (operand item).action descending nulls) (sortItems rest)

theorem predicate : (p : Predicate) →
    Writes target.config (Write.predicate target p) (Render.predicate target p)
  | .comparison left op right => comparison (operand left) op (operand right)
  | .inList test values negated => inList (operand test).action (exprs values) negated
  | .inSubquery test nested negated => by
    rw [Write.predicate, Render.predicate, Fragment.append_assoc]
    exact (operand test).action.seq ((append _).seq (query nested).subquery)
  | .inArray test array => inArray (operand test).action (operand array).action
  | .like ⟨matched, pattern, escape, caseSensitive, negated⟩ =>
    like ⟨matched, pattern, escape, caseSensitive, negated⟩ (operand matched).action (operand pattern).action
      (optional escape)
  | .nullness tested negated => (operand tested).action.seq (append _)
  | .between tested low high negated => by
    simp only [Write.predicate, Render.predicate, Fragment.append_assoc]
    exact (operand tested).action.seq ((append _).seq ((operand low).action.seq ((append " and ").seq
      (operand high).action)))
  | .existence nested negated => by
    rw [Write.predicate, Render.predicate, Fragment.append_assoc]
    exact (onlyIf negated (append "not ")).seq ((append "exists ").seq (query nested).subquery)
  | .junction kind parts => separated kind.separator (junctionParts parts)
  | .negation inner => (append "not ").seq (predicate inner).parens

theorem junctionParts : (parts : List Predicate) →
    WritesAll target.config (Write.junctionParts target parts) (Render.junctionParts target parts)
  | [] => .nil
  | part :: rest => List.rel_append (junctionPart part (predicate part)) (junctionParts rest)

theorem condition : (restriction : Option Predicate) →
    WritesOptional target.config (Write.condition target restriction) (Render.condition target restriction)
  | none => .none
  | some p => by
    rw [Write.condition, Render.condition]
    split
    · exact .none
    · exact .some (predicate p)

theorem optional : (value : Option Expr) →
    WritesOptional target.config (Write.optional target value) (Render.optional target value)
  | none => .none
  | some e => .some (operand e).action

theorem query : (q : Query) → (Write.query target q).Renders target.config (Render.query target q)
  | ⟨_, selections, sources, restriction, groupBy, having, orderBy, offset, fetch, _⟩ =>
    queryOf ⟨rfl, selectionList selections, groups sources, condition restriction, partitionItems groupBy, rfl,
      condition having, sortItems orderBy, optional offset, optional fetch, rfl⟩

theorem selectionList : (selections : List Selection) →
    List.Forall₂ (WritesSelection target.config) (Write.selectionList target selections)
      (Render.selectionList target selections)
  | [] => .nil
  | ⟨e, _⟩ :: rest => .cons ⟨(operand e).action, rfl⟩ (selectionList rest)

theorem groups : (sources : List TableGroup) →
    WritesAll target.config (Write.groups target sources) (Render.groups target sources)
  | [] => .nil
  | ⟨primary, joined⟩ :: rest => .cons ((table primary).seq (joins joined)) (groups rest)

theorem joins : (joined : List Join) → Writes target.config (Write.joins target joined) (Render.joins target joined)
  | [] => nil
  | ⟨kind, right, on⟩ :: rest => (join kind (table right) (condition on)).seq (joins rest)

theorem table : (from_ : TableRef) → Writes target.config (Write.table target from_) (Render.table target from_)
  | .named named => namedTable named
  | .derived ⟨origin, aliasName, columnNames, lateral⟩ =>
    derivedTable ⟨origin, aliasName, columnNames, lateral⟩ (source origin)

theorem source : (origin : DerivedSource) →
    (Write.source target origin).Renders target.config (Render.source target origin)
  | .query nested => .query nested (query nested)
  | .function call => .function call (function call)

end

theorem expr (e : Expr) : Writes target.config (Write.expr target e) (Render.expr target e) :=
  (operand e).action

end Writes

end PortableSql
