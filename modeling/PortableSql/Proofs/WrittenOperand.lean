import PortableSql.Proofs.Writing
import PortableSql.Writer.Operand
import PortableSql.Render.RowValue

/-! Leaves, row values and patterns write their fragments.

An action that is put together from parts writes the fragment that is put together from what the parts write.
A part may be taken more than once, and in a clause of another's choice, so it has to write its fragment
wherever it is taken.
-/

set_option autoImplicit false

namespace PortableSql

/-- Whether actions write fragments, one for one. -/
abbrev WritesAll (config : Config) (actions : List Action) (fragments : List Fragment) : Prop :=
  List.Forall₂ (Writes config) actions fragments

/-- Whether an optional action writes an optional fragment. -/
abbrev WritesOptional (config : Config) (action : Option Action) (fragment : Option Fragment) : Prop :=
  Option.Rel (Writes config) action fragment

theorem WritesAll.map {config : Config} {α : Type} {act : α → Action} {render : α → Fragment} (items : List α)
    (each : ∀ item, Writes config (act item) (render item)) :
    WritesAll config (items.map act) (items.map render) := by
  induction items with
  | nil => exact .nil
  | cons item rest ih => exact .cons (each item) ih

/-- Whether a selection writes its fragment and has its alias. -/
def WritesSelection (config : Config) (selection : Action × Option String) (rendered : Fragment × Option String) :
    Prop :=
  Writes config selection.1 rendered.1 ∧ selection.2 = rendered.2

/-- Whether the parts of a query write the parts of the rendered one. -/
structure Write.QueryActions.Renders (config : Config) (parts : Write.QueryActions)
    (rendered : QueryParts) : Prop where
  distinct : parts.distinct = rendered.distinct
  selections : List.Forall₂ (WritesSelection config) parts.selections rendered.selections
  sources : WritesAll config parts.sources rendered.sources
  restriction : WritesOptional config parts.restriction rendered.restriction
  groupBy : WritesAll config parts.groupBy rendered.groupBy
  hasHaving : parts.hasHaving = rendered.hasHaving
  having : WritesOptional config parts.having rendered.having
  orderBy : WritesAll config parts.orderBy rendered.orderBy
  offset : WritesOptional config parts.offset rendered.offset
  fetch : WritesOptional config parts.fetch rendered.fetch
  lock : parts.lock = rendered.lock

structure Write.ScopedQuery.Renders (config : Config) (query : Write.ScopedQuery) (rendered : RenderedQuery) :
    Prop where
  parts : query.parts.Renders config rendered.parts
  inScope (scope : Scope) : Writes config (query.inScope scope) (rendered.inScope scope)

/-- Whether operands have the same form and the parts of the one write those of the other. -/
inductive Write.OperandAction.Renders (config : Config) : Write.OperandAction → Operand → Prop
  | plain {action : Action} {fragment : Fragment} : Writes config action fragment →
    Renders config (.plain action) (.plain fragment)
  | row {items : List Action} {fragments : List Fragment} : WritesAll config items fragments →
    Renders config (.row items) (.row fragments)
  | subquery {query : Write.ScopedQuery} {rendered : RenderedQuery} (quantifier : Quantifier) :
    query.Renders config rendered → Renders config (.subquery quantifier query) (.subquery quantifier rendered)

/-- Whether comparisons of rows write the same of rows that do. -/
def Write.RowAction.Renders (config : Config) (compareRows : Write.RowAction) (rendered : RowComparison) :
    Prop :=
  ∀ {left right : List Action} {l r : List Fragment} (op : ComparisonOp), WritesAll config left l →
    WritesAll config right r → Writes config (compareRows left right op) (rendered l r op)

section

variable {config : Config}

theorem WritesOptional.isSome {action : Option Action} {fragment : Option Fragment}
    (writes : WritesOptional config action fragment) : action.isSome = fragment.isSome := by
  cases writes <;> rfl

theorem WritesAll.isEmpty {actions : List Action} {fragments : List Fragment}
    (each : WritesAll config actions fragments) : actions.isEmpty = fragments.isEmpty := by
  cases each <;> rfl

theorem Write.ScopedQuery.Renders.subquery {query : Write.ScopedQuery} {rendered : RenderedQuery}
    (renders : query.Renders config rendered) : Writes config query.subquery rendered.subquery :=
  (renders.inScope {}).parens

namespace Write.OperandAction.Renders

variable {operand : Write.OperandAction} {rendered : Operand}

theorem action (renders : operand.Renders config rendered) : Writes config operand.action rendered.fragment := by
  cases renders with
  | plain writes => exact writes
  | row each => exact (Writes.separated "," each).parens
  | subquery quantifier query =>
    cases quantifier with
    | one => exact query.subquery
    | any => exact (Writes.append "any").seq query.subquery
    | every => exact (Writes.append "all").seq query.subquery

theorem selected (renders : operand.Renders config rendered) :
    Writes config operand.selected rendered.selected := by
  cases renders with
  | plain writes => exact writes
  | row each => exact Writes.separated "," each
  | subquery quantifier query => exact action (.subquery quantifier query)

end Write.OperandAction.Renders

namespace Writes

/-! Leaves -/

theorem value (value : Value) : Writes config (Write.literal config value) (value.fragment config) := by
  cases value with
  | string content => exact literal content
  | null | bool | int | float | date | timestamp => exact append _

theorem column (column : ColumnRef) : Writes config (Write.column column) column.fragment := by
  have qualifier (name : String) :
      Writes config (do Write.append name; Write.append ".") (.text name ++ .text ".") :=
    (append name).seq (append ".")
  exact (ifSome_self column.qualifier qualifier).seq (append column.name)

theorem aliasText (aliasName : String) : Writes config (Write.aliasText aliasName) (.aliasText aliasName) :=
  (append " ").seq (append aliasName)

theorem tableName (name : String) : Writes config (Write.tableName name) (.table name) :=
  (append name).seq (register name)

theorem namedTable (table : NamedTable) : Writes config (Write.namedTable table) table.fragment :=
  (tableName table.table).seq (ifSome_self table.aliasName aliasText)

/-! Row values -/

variable {left right : Action} {l r : Fragment}

theorem compare (one : Writes config left l) (op : ComparisonOp) (two : Writes config right r) :
    Writes config (Write.compare left op right) (RowValue.compare l op r) := by
  rw [RowValue.compare, Fragment.append_assoc]
  exact one.seq ((append op.spacedText).seq two)

theorem pairwise {left right : List Action} {l r : List Fragment} (op : ComparisonOp)
    (one : WritesAll config left l) (two : WritesAll config right r) :
    WritesAll config (Write.pairwise op left right) (RowValue.pairwise op l r) := by
  induction one generalizing right r with
  | nil => exact .nil
  | cons head rest ih =>
    cases two with
    | nil => exact .nil
    | cons head' rest' => exact .cons (head.compare op head') (ih rest')

theorem lexicographic {left right : List Action} {l r : List Fragment} (op : ComparisonOp) (ranges : Bool)
    (one : WritesAll config left l) (two : WritesAll config right r) :
    Writes config (Write.lexicographic op ranges left right) (RowValue.lexicographic op ranges l r) := by
  induction one generalizing right r with
  | nil => exact nil
  | cons head rest ih =>
    cases two with
    | nil => cases rest <;> exact nil
    | cons head' rest' =>
      have others := ih rest'
      have length := rest.length_eq
      cases rest with
      | nil => exact head.compare op head'
      | cons second more =>
        rw [Write.lexicographic, RowValue.lexicographic]
        · cases ranges with
          | true =>
            simp only [if_true, Fragment.append_assoc]
            exact (head.compare _ head').seq ((append " and ").seq
              ((head.compare _ head').seq ((append " or ").seq others)).parens)
          | false =>
            simp only [Bool.false_eq_true, if_false, Fragment.append_assoc, length]
            refine (head.compare _ head').seq ((append " or ").seq ((head.compare _ head').seq
              ((append " and ").seq ?_)))
            split
            · exact others.parens
            · exact others
        · nofun
        · nofun

theorem expand (ranges : Bool) : Write.RowAction.Renders config (Write.expand ranges) (RowValue.expand ranges) := by
  intro left right l r op one two
  unfold Write.expand RowValue.expand
  rw [one.length_eq, two.length_eq]
  split
  · exact fail _
  · next same =>
    have ordered (op : ComparisonOp) := (lexicographic op ranges one two).parens
    have joined (separator : String) (op : ComparisonOp) := (separated separator (pairwise op one two)).parens
    cases one with
    | nil => cases two <;> exact fail _
    | cons head rest =>
      cases two with
      | nil => cases rest <;> exact fail _
      | cons head' rest' =>
        cases rest with
        | nil =>
          cases rest' with
          | nil => exact head.compare op head'
          | cons => exact absurd (by simp) same
        | cons =>
          cases op with
          | eq | ne => exact joined _ _
          | distinctFrom | notDistinctFrom => exact fail _
          | lt | lte | gt | gte => exact ordered _

theorem restriction {action : Option Action} {fragment : Option Fragment} (inner : Clause) (keyword : String)
    (writes : WritesOptional config action fragment) :
    Writes config (Write.restriction inner keyword action) (RowValue.restriction inner keyword fragment) :=
  ifSome writes fun condition => inClause ((append keyword).seq condition _)

theorem grouping {items : List Action} {fragments : List Fragment} (each : WritesAll config items fragments) :
    Writes config (Write.grouping items) (RowValue.grouping fragments) :=
  clause .groupBy " group by " each

theorem existence {compareRows : Write.RowAction} {rendered : RowComparison} {row : List Action}
    {fragments : List Fragment} {parts : Write.QueryActions} {query : QueryParts}
    (rows : compareRows.Renders config rendered) (each : WritesAll config row fragments)
    (renders : parts.Renders config query) (op : ComparisonOp) (negated : Bool) :
    Writes config (Write.existence compareRows row parts op negated)
      (RowValue.existence rendered fragments query op negated) := by
  rw [Write.existence, RowValue.existence, renders.fetch.isSome, renders.offset.isSome, renders.groupBy.isEmpty,
    renders.hasHaving, renders.sources.isEmpty]
  split
  · exact fail _
  · have chosen (grouped : Bool) : WritesOptional config (if grouped then parts.having else parts.restriction)
        (if grouped then query.having else query.restriction) := by
      cases grouped with
      | true => exact renders.having
      | false => exact renders.restriction
    have head (grouped : Bool) : Writes config (Write.conditionHead parts grouped)
        (if grouped then RowValue.restriction .restriction " where " query.restriction ++
          (RowValue.grouping query.groupBy ++ .text " having ") else .text " where ") := by
      cases grouped with
      | true =>
        exact (restriction .restriction " where " renders.restriction).seq
          ((grouping renders.groupBy).seq (append " having "))
      | false => exact append " where "
    have columns : WritesAll config (parts.selections.map Prod.fst) (query.selections.map Prod.fst) := by
      refine List.forall₂_map_left_iff.mpr (List.forall₂_map_right_iff.mpr ?_)
      exact renders.selections.imp fun _ _ selection => selection.1
    simp only [Fragment.append_assoc]
    refine (onlyIf negated (append "not ")).seq ((append "exists (select 1").seq
      ((onlyIf _ ((append " from ").seq (separated "," renders.sources))).seq ((head _).seq (seq ?_
        ((rows op.invert columns each).seq (append ")"))))))
    refine ifSome (chosen _) fun condition => ?_
    exact (append "(").seq (condition.seq (append ") and "))

section

variable {left right : Write.OperandAction} {l r : Operand}

theorem native (one : left.Renders config l) (op : ComparisonOp) (two : right.Renders config r) :
    Writes config (Write.native left op right) (RowValue.native l op r) :=
  one.action.compare op two.action

theorem intersection (one : left.Renders config l) (negated : Bool) (two : right.Renders config r) :
    Writes config (Write.intersection left negated right) (RowValue.intersection l negated r) := by
  simp only [RowValue.intersection, Fragment.append_assoc]
  exact (onlyIf negated (append "not ")).seq ((append "exists (select ").seq (one.selected.seq
    ((append " intersect select ").seq (two.selected.seq (append ")")))))

theorem emulate {compareRows : Write.RowAction} {rendered : RowComparison}
    (rows : compareRows.Renders config rendered) (one : left.Renders config l) (op : ComparisonOp)
    (two : right.Renders config r) :
    Writes config (Write.emulate compareRows left op right) (RowValue.emulate rendered l op r) := by
  cases op with
  | distinctFrom => exact intersection one true two
  | notDistinctFrom => exact intersection one false two
  | eq | ne | lt | lte | gt | gte =>
    cases one with
    | plain writes => exact native (.plain writes) _ two
    | subquery quantifier query => exact native (.subquery quantifier query) _ two
    | row each =>
      cases two with
      | plain writes => exact native (.row each) _ (.plain writes)
      | row others => exact rows _ each others
      | subquery quantifier query =>
        cases quantifier <;> exact existence rows each query.parts _ _

end

/-! Matches against a pattern -/

variable {expr pattern : Action} {e p : Fragment} {escape : Option Action} {c : Option Fragment}

theorem escapeClause (escaped : WritesOptional config escape c) :
    Writes config (Write.escapeClause escape) (Pattern.escapeClause c) :=
  ifSome escaped fun writes => (append " escape ").seq writes

theorem standardMatch (caseSensitive negated : Bool) (matched : Writes config expr e)
    (against : Writes config pattern p) (escaped : WritesOptional config escape c) :
    Writes config (Write.standardMatch caseSensitive negated expr pattern escape)
      (Pattern.standard caseSensitive negated e p c) := by
  simp only [Pattern.standard, Fragment.append_assoc]
  exact matched.seq ((onlyIf negated (append " not")).seq ((append _).seq (against.seq (escapeClause escaped))))

theorem loweredMatch (negated : Bool) (matched : Writes config expr e) (against : Writes config pattern p)
    (escaped : WritesOptional config escape c) :
    Writes config (Write.loweredMatch config negated expr pattern escape)
      (Pattern.lowered config negated e p c) := by
  simp only [Pattern.lowered, Fragment.append_assoc]
  exact (append _).seq (matched.parens.seq ((onlyIf negated (append " not")).seq ((append " like ").seq
    ((append _).seq (against.parens.seq (escapeClause escaped))))))

theorem unescapedMatch (caseSensitive negated : Bool) (matched : Writes config expr e)
    (against : Writes config pattern p) :
    Writes config (Write.unescapedMatch config caseSensitive negated expr pattern)
      (Pattern.unescaped config caseSensitive negated e p) := by
  cases caseSensitive with
  | true => exact standardMatch true negated matched against .none
  | false => exact loweredMatch negated matched against .none

theorem renamed {written : Write.ScopedQuery} {rendered : RenderedQuery} (query : Query)
    (renders : written.Renders config rendered) (names : List String) :
    Writes config (Write.renamed query written names) (rendered.renamed query names) := by
  rw [Write.renamed, RenderedQuery.renamed]
  cases query.namesRefused? names with
  | some cause => exact fail cause
  | none => exact (renders.inScope _).parens

end Writes

end

end PortableSql
