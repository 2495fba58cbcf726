import PortableSql.Proofs.Bare
import PortableSql.Proofs.Refusal
import PortableSql.Session
import PortableSql.Syntax.Build

/-! What an offer to a dialect, or a node that it refuses, leaves behind.

A construct that the dialect leaves to the standard rendering is rendered in the session as it was before the offer,
and a node that is refused for what it is leaves the session as it was: nothing of it is written before it is looked at
as a whole (`Session.offers_untouched`).
-/

set_option autoImplicit false

namespace PortableSql

/-- Whether two sessions have the same target, open clauses and rendering: text, parameters, tables and locks. -/
structure Session.Same (before after : Session) : Prop where
  target : after.target = before.target
  clauses : after.clauses = before.clauses
  finish : after.finish = before.finish

/-! ### Offers -/

namespace Spanner

theorem derivedTable_eq_none (table : DerivedTable) (source : RenderedSource) :
    derivedTable table source = none ↔ table.lateral = false := by
  unfold derivedTable
  split_ifs with lateral
  · exact iff_of_false not_false (by simp [lateral])
  · exact iff_of_true rfl (eq_false_of_ne_true lateral)

theorem unrestricted_eq_none (restriction : Option Predicate) (head returning : Fragment) :
    unrestricted restriction head returning = none ↔ Predicate.restricts restriction = true := by
  rw [unrestricted]
  split_ifs with restricts
  · exact iff_of_true rfl restricts
  · exact iff_of_false not_false restricts

theorem like_eq_none (config : Config) (node : Like) (expr pattern : Fragment) :
    like config node expr pattern = none ↔ node.escape = none ∧ node.caseSensitive = true := by
  rw [like]
  cases node.escape with
  | none => cases node.caseSensitive <;> simp
  | some escape => simp

theorem arithmetic_eq_none (left : Expr) (op : ArithmeticOp) (right : Expr) (l r : Fragment) :
    arithmetic left op right l r = none ↔ op.isIntegerDivision left right = false := by
  rw [arithmetic]
  split_ifs with whole
  · exact iff_of_false not_false (by simp [whole])
  · exact iff_of_true rfl (eq_false_of_ne_true whole)

end Spanner

/-- A construct with its nodes, as it is offered to a dialect. A lock strategy is only asked for, with nothing to
write. -/
inductive Offer where
  | offsetFetch (query : Query)
  | comparison (left : Expr) (op : ComparisonOp) (right : Expr)
  | rowComparison (left right : List Expr) (op : ComparisonOp)
  | partitionItem (item : Expr)
  | selectClause (distinct : Bool) (selections : List Selection) (scope : Scope)
  | derivedTable (table : DerivedTable)
  | derivedAlias (table : DerivedTable)
  | queryPart (query : Query) (names : List String)
  | dmlTarget (table : NamedTable)
  | delete (change : Delete)
  | update (change : Update)
  | insertWithConflict (change : Insert) (conflict : Conflict)
  | inArray (test array : Expr)
  | like (node : Like)
  | arithmetic (left : Expr) (op : ArithmeticOp) (right : Expr)

/-- What a dialect answers to an offer, and what is rendered if it does not. -/
structure Answer where
  construct : Construct
  own : Option Fragment
  standard : Fragment

namespace Offer

open Render in
def answer (target : Target) (clause : Option Clause) : Offer → Answer
  | .offsetFetch query =>
    let offset := optional target query.offset
    let fetch := optional target query.fetch
    ⟨.offsetFetch, target.overrides.offsetFetch offset fetch, standardPaging offset fetch⟩
  | .comparison left op right =>
    let l := operand target left
    let r := operand target right
    ⟨.comparison, target.overrides.comparison (Render.rowComparison target) l op r, RowValue.native l op r⟩
  | .rowComparison left right op =>
    let ls := exprs target left
    let rs := exprs target right
    ⟨.rowComparison, target.overrides.rowComparison ls rs op, RowValue.expand false ls rs op⟩
  | .partitionItem item =>
    ⟨.partitionItem, target.overrides.partitionItem item, standardPartitionItem item (expr target item)⟩
  | .selectClause distinct list scope =>
    let rendered := selections scope (selectionList target list)
    ⟨.selectClause, target.overrides.selectClause distinct scope rendered,
      .text "select " ++ .onlyIf distinct (.text "distinct ") ++ rendered⟩
  | .derivedTable table =>
    let rendered := source target table.source
    ⟨.derivedTable, target.overrides.derivedTable table rendered,
      .onlyIf table.lateral (.text "lateral ")
        ++ (match rendered with
          | .query nested inner => Render.queryPart target nested inner table.columnNames
          | .function _ inner => inner)
        ++ Render.derivedAlias target table⟩
  | .derivedAlias table =>
    ⟨.derivedAlias, target.overrides.derivedAlias table,
      table.aliasFragment ++ .onlyIf (!table.columnNames.isEmpty) (.parens (.names table.columnNames))⟩
  | .queryPart nested names =>
    let rendered := query target nested
    ⟨.queryPart, target.overrides.queryPart nested rendered names, rendered.subquery⟩
  | .dmlTarget table => ⟨.dmlTarget, target.overrides.dmlTarget clause table, standardDmlTarget table⟩
  | .delete change =>
    let head := deleteClause target change.target
    let columns := returning change.returning
    ⟨.delete, target.overrides.delete change.restriction head columns,
      head ++ restriction target .restriction " where " change.restriction ++ columns⟩
  | .update change =>
    let head := updateClause target change.target
    let items := setClause target change.assignments
    let columns := returning change.returning
    ⟨.update, target.overrides.update change.restriction head items columns,
      head ++ items ++ restriction target .restriction " where " change.restriction ++ columns⟩
  | .insertWithConflict change conflict =>
    let table := Render.dmlTarget target (some .insert) change.target
    let rows := insertSource target change.source
    let columns := returning change.returning
    ⟨.insertWithConflict,
      target.overrides.insertWithConflict { change with conflict := some conflict } conflict table rows columns,
      .inClause .insert (.text "insert into " ++ table
          ++ .onlyIf (!change.columns.isEmpty) (.text " " ++ .parens (.names change.columns)))
        ++ .text " " ++ rows ++ conflictClause target conflict ++ columns⟩
  | .inArray test array =>
    let first := expr target test
    let second := expr target array
    ⟨.inArray, target.overrides.inArray first second, first ++ .text "=any" ++ .parens second⟩
  | .like node =>
    let first := expr target node.expr
    let second := expr target node.pattern
    let escape := optional target node.escape
    ⟨.like, target.overrides.like target.config node first second escape,
      Pattern.standard node.caseSensitive node.negated first second escape⟩
  | .arithmetic left op right =>
    let l := expr target left
    let r := expr target right
    ⟨.arithmetic, target.overrides.arithmetic left op right l r, standardArithmetic l op r⟩

/-- What is written after the offer or in its place. -/
def piece : Offer → Piece
  | .offsetFetch query => .offsetFetch query
  | .comparison left op right => .comparison left op right
  | .rowComparison left right op => .rowComparison left right op
  | .partitionItem item => .partitionItem item
  | .selectClause distinct list scope => .selectClause distinct list scope
  | .derivedTable table => .table (.derived table)
  | .derivedAlias table => .derivedAlias table
  | .queryPart query names => .queryPart query names
  | .dmlTarget table => .dmlTarget table
  | .delete change => .statement (.delete change)
  | .update change => .statement (.update change)
  | .insertWithConflict change conflict => .statement (.insert { change with conflict := some conflict })
  | .inArray test array => .inArray test array
  | .like node => .like node
  | .arithmetic left op right => .arithmetic left op right

/-- The offers that Spanner leaves to the standard rendering. -/
inductive Deferred : Offer → Prop
  | partitionItem {item : Expr} (varying : ∀ value, item ≠ .literal value)
    (simple : ∀ kind groupings, item ≠ .summarization kind groupings) : Deferred (.partitionItem item)
  | derivedTable {table : DerivedTable} (closed : table.lateral = false) : Deferred (.derivedTable table)
  | delete {change : Delete} (restricted : Predicate.restricts change.restriction = true) : Deferred (.delete change)
  | update {change : Update} (restricted : Predicate.restricts change.restriction = true) : Deferred (.update change)
  | like {node : Like} (unescaped : node.escape = none) (caseSensitive : node.caseSensitive = true) :
    Deferred (.like node)
  | arithmetic {left right : Expr} {op : ArithmeticOp} (other : op.isIntegerDivision left right = false) :
    Deferred (.arithmetic left op right)

theorem fragment_piece (offer : Offer) (target : Target) (clause : Option Clause) :
    offer.piece.fragment target clause =
      .offer (offer.answer target clause).construct (offer.answer target clause).own
        (offer.answer target clause).standard := by
  cases offer with
  | derivedTable table =>
    obtain ⟨source, aliasName, columnNames, lateral⟩ := table
    cases source <;> rfl
  | _ => rfl

theorem own_spanner (offer : Offer) (config : Config) (clause : Option Clause) :
    (offer.answer ⟨.spanner, config⟩ clause).own = none ↔ offer.Deferred := by
  cases offer with
  | partitionItem item =>
    show Spanner.partitionItem item = none ↔ _
    constructor
    · intro left
      refine .partitionItem ?_ ?_
      · rintro value rfl
        contradiction
      · rintro kind groupings rfl
        contradiction
    · rintro ⟨varying, simple⟩
      rw [Spanner.partitionItem]
      · exact varying
      · exact simple
  | derivedTable table =>
    show Spanner.derivedTable table _ = none ↔ _
    rw [Spanner.derivedTable_eq_none]
    refine ⟨.derivedTable, fun deferred => ?_⟩
    cases deferred with
    | derivedTable closed => exact closed
  | delete change =>
    show Spanner.unrestricted change.restriction _ _ = none ↔ _
    rw [Spanner.unrestricted_eq_none]
    refine ⟨.delete, fun deferred => ?_⟩
    cases deferred with
    | delete restricted => exact restricted
  | update change =>
    show Spanner.unrestricted change.restriction _ _ = none ↔ _
    rw [Spanner.unrestricted_eq_none]
    refine ⟨.update, fun deferred => ?_⟩
    cases deferred with
    | update restricted => exact restricted
  | like node =>
    show Spanner.like config node _ _ = none ↔ _
    rw [Spanner.like_eq_none]
    constructor
    · rintro ⟨unescaped, caseSensitive⟩
      exact .like unescaped caseSensitive
    · intro deferred
      cases deferred with
      | like unescaped caseSensitive => exact ⟨unescaped, caseSensitive⟩
  | arithmetic left op right =>
    show Spanner.arithmetic left op right _ _ = none ↔ _
    rw [Spanner.arithmetic_eq_none]
    refine ⟨.arithmetic, fun deferred => ?_⟩
    cases deferred with
    | arithmetic other => exact other
  | offsetFetch | comparison | rowComparison | selectClause | derivedAlias | queryPart | dmlTarget | insertWithConflict
  | inArray =>
    refine iff_of_false (Option.some_ne_none _) ?_
    rintro ⟨⟩

theorem own_eq_none (offer : Offer) (target : Target) (clause : Option Clause) :
    (offer.answer target clause).own = none ↔ target.dialect = .generic ∨ offer.Deferred := by
  obtain ⟨dialect, config⟩ := target
  cases dialect with
  | generic => exact iff_of_true (by cases offer <;> rfl) (.inl rfl)
  | spanner => exact (offer.own_spanner config clause).trans (or_iff_right nofun).symm

end Offer

/-! ### Refusals -/

/-- Why rows of these lengths cannot be compared. -/
inductive RowValue.RefusedFor (left right : Nat) (op : ComparisonOp) : Error → Prop
  | lengths (different : left ≠ right) : RefusedFor left right op (.rowLengths left right)
  | empty (first : left = 0) (second : right = 0) : RefusedFor left right op .emptyRow
  | distinct (same : left = right) (several : 2 ≤ left) (distinctness : op.isDistinctness = true) :
    RefusedFor left right op .distinctRow

/-- Why names cannot be given to the columns of a query. -/
inductive Query.RefusedFor (query : Query) (names : List String) : Error → Prop
  | star (named : names ≠ []) (all : ∃ selection ∈ query.selections, selection.expr = .star) :
    RefusedFor query names .namesForStar
  | count (named : names ≠ []) (single : ∀ selection ∈ query.selections, selection.expr ≠ .star)
    (different : query.selections.length ≠ names.length) :
    RefusedFor query names (.nameCount names.length query.selections.length)

/-- Why Spanner has no form for a conflict clause. -/
inductive Conflict.RefusedFor (conflict : Conflict) : Error → Prop
  | name (named : conflict.constraintName ≠ none) : RefusedFor conflict .namedConstraint
  | columns (unnamed : conflict.constraintName = none) (present : conflict.constraintColumns ≠ []) :
    RefusedFor conflict .constraintColumns
  | predicate (unnamed : conflict.constraintName = none) (absent : conflict.constraintColumns = [])
    (restricted : Predicate.restricts conflict.predicate = true) : RefusedFor conflict .conflictPredicate

/-- Why Spanner has no form for a match with an escape. -/
inductive Like.RefusedFor (node : Like) : Error → Prop
  | escape {escape : Expr} (present : node.escape = some escape)
    (form : ∀ c : Char, escape.string? ≠ some (String.singleton c)) : RefusedFor node .escapeNotCharacter
  | pattern {escape : Expr} {c : Char} (present : node.escape = some escape)
    (form : escape.string? = some (String.singleton c)) (other : c ≠ '\\') (pattern : node.pattern.string? = none) :
    RefusedFor node (.patternNotLiteral c)

/-- The pieces that a dialect refuses for what they are. -/
inductive Piece.RefusedFor : Dialect → Piece → Error → Prop
  | insert {change : Insert} {conflict : Conflict} {cause : Error} (present : change.conflict = some conflict)
    (refused : conflict.RefusedFor cause) : RefusedFor .spanner (.statement (.insert change)) cause
  | like {node : Like} {cause : Error} (refused : node.RefusedFor cause) : RefusedFor .spanner (.like node) cause
  | summarization (kind : SummarizationKind) (groupings : List Expr) :
    RefusedFor .spanner (.partitionItem (.summarization kind groupings)) (.summarization kind)
  | rowExpansion {dialect : Dialect} {left right : List Expr} {op : ComparisonOp} {cause : Error}
    (refused : RowValue.RefusedFor left.length right.length op cause) (ranges : Bool) :
    RefusedFor dialect (.rowExpansion left right op ranges) cause
  | rowComparison {dialect : Dialect} {left right : List Expr} {op : ComparisonOp} {cause : Error}
    (refused : RowValue.RefusedFor left.length right.length op cause) :
    RefusedFor dialect (.rowComparison left right op) cause
  | emulatedRows {dialect : Dialect} {left right : List Expr} {op : ComparisonOp} {cause : Error}
    (refused : RowValue.RefusedFor left.length right.length op cause) (comparable : op.isDistinctness = false) :
    RefusedFor dialect (.emulatedComparison (.tuple left) op (.tuple right)) cause
  | emulatedSubquery {dialect : Dialect} {quantifier : Quantifier} {query : Query} (row : List Expr)
    (limited : query.fetch ≠ none ∨ query.offset ≠ none) {op : ComparisonOp}
    (comparable : op.isDistinctness = false) :
    RefusedFor dialect (.emulatedComparison (.tuple row) op (.subquery quantifier query)) .limitedSubquery
  -- Spanner emulates all comparisons but for a membership in a query.
  | comparison {left right : Expr} {op : ComparisonOp} {cause : Error}
    (refused : RefusedFor .spanner (.emulatedComparison left op right) cause)
    (other : ∀ query, ¬ (op = .eq ∧ right = .subquery .any query ∨ op = .ne ∧ right = .subquery .every query)) :
    RefusedFor .spanner (.comparison left op right) cause
  | renamed {dialect : Dialect} {query : Query} {names : List String} {cause : Error}
    (refused : query.RefusedFor names cause) : RefusedFor dialect (.renamed query names) cause
  | queryPart {query : Query} {names : List String} {cause : Error} (refused : query.RefusedFor names cause) :
    RefusedFor .spanner (.queryPart query names) cause
  -- Lateral or not.
  | derivedQuery {query : Query} {names : List String} {cause : Error} (refused : query.RefusedFor names cause)
    (aliasName : String) (lateral : Bool) :
    RefusedFor .spanner (.table (.derived ⟨.query query, aliasName, names, lateral⟩)) cause

theorem Fragment.outcome_eq_standard (answer : Option Fragment) : outcome answer = .standard ↔ answer = none := by
  cases answer with
  | none => exact iff_of_true rfl rfl
  | some fragment =>
    refine iff_of_false ?_ nofun
    rw [outcome]
    split_ifs <;> nofun

@[simp] theorem Fragment.bare_fail (cause : Error) : (fail cause).bare = fail cause := rfl

theorem RowValue.RefusedFor.expand {left right : List Fragment} {op : ComparisonOp} {cause : Error}
    (refused : RowValue.RefusedFor left.length right.length op cause) (ranges : Bool) :
    RowValue.expand ranges left right op = .fail cause := by
  unfold RowValue.expand
  cases refused with
  | lengths different => exact if_pos different
  | empty first second =>
    rw [List.length_eq_zero_iff.mp first, List.length_eq_zero_iff.mp second]
    rfl
  | distinct same several distinctness =>
    match left, right, same, several with
    | l :: l' :: left, r :: r' :: right, same, _ =>
      rw [if_neg (not_not_intro same)]
      cases op <;> first | rfl | contradiction

theorem RowValue.emulate_rows (compareRows : RowComparison) (left right : List Fragment) {op : ComparisonOp}
    (comparable : op.isDistinctness = false) :
    RowValue.emulate compareRows (.row left) op (.row right) = compareRows left right op := by
  cases op <;> first | rfl | contradiction

theorem RowValue.emulate_limited (compareRows : RowComparison) (row : List Fragment) {op : ComparisonOp}
    (comparable : op.isDistinctness = false) (quantifier : Quantifier) {query : RenderedQuery}
    (limited : (query.parts.fetch.isSome || query.parts.offset.isSome) = true) :
    RowValue.emulate compareRows (.row row) op (.subquery quantifier query) = .fail .limitedSubquery := by
  have refused (op : ComparisonOp) (negated : Bool) :
      existence compareRows row query.parts op negated = .fail .limitedSubquery := by
    rw [existence, if_pos limited]
  cases op <;> first | contradiction | (cases quantifier <;> exact refused _ _)

theorem Query.RefusedFor.namesRefused? {query : Query} {names : List String} {cause : Error}
    (refused : query.RefusedFor names cause) : query.namesRefused? names = some cause := by
  cases refused with
  | star named all => simpa [Query.namesRefused?, Expr.isStar_iff, named] using all
  | count named single different =>
    have none : (query.selections.any fun selection => selection.expr.isStar) = false := by
      simpa [Expr.isStar_iff] using single
    simp [Query.namesRefused?, named, none, different]

theorem Query.RefusedFor.renamed {query : Query} {names : List String} {cause : Error}
    (refused : query.RefusedFor names cause) (rendered : RenderedQuery) :
    RenderedQuery.renamed query rendered names = .fail cause := by
  rw [RenderedQuery.renamed, refused.namesRefused?]

theorem Conflict.RefusedFor.conflictRefused? {conflict : Conflict} {cause : Error}
    (refused : conflict.RefusedFor cause) : Spanner.conflictRefused? conflict = some cause := by
  cases refused with
  | name named => simp [Spanner.conflictRefused?, Option.isSome_iff_ne_none, named]
  | columns unnamed present => simp [Spanner.conflictRefused?, unnamed, present]
  | predicate unnamed absent restricted => simp [Spanner.conflictRefused?, unnamed, absent, restricted]

theorem Like.RefusedFor.like {node : Like} {cause : Error} (refused : node.RefusedFor cause) (config : Config)
    (expr pattern : Fragment) : Spanner.like config node expr pattern = some (.fail cause) := by
  cases refused with
  | escape present form =>
    have unread : Pattern.escape? _ = none :=
      Option.eq_none_iff_forall_ne_some.mpr fun c read => form c (Render.escape?_eq_some.mp read)
    simp [Spanner.like, present, unread]
  | pattern present form other pattern =>
    simp [Spanner.like, present, Render.escape?_eq_some.mpr form, other, pattern]

theorem Render.exists_of_operand_subquery {target : Target} {e : Expr} {quantifier : Quantifier}
    {rendered : RenderedQuery} (same : operand target e = .subquery quantifier rendered) :
    ∃ nested, e = .subquery quantifier nested := by
  cases e with
  | subquery own nested =>
    cases same
    exact ⟨nested, rfl⟩
  | star | literal | column | parameter | arithmetic | function | window | tuple | summarization => contradiction

theorem Render.bare_rowComparison (target : Target) {left right : List Expr} {op : ComparisonOp} {cause : Error}
    (refused : RowValue.RefusedFor left.length right.length op cause) :
    (rowComparison target (exprs target left) (exprs target right) op).bare = .fail cause := by
  have refused : RowValue.RefusedFor (exprs target left).length (exprs target right).length op cause := by
    rwa [exprs_length, exprs_length]
  obtain ⟨dialect, config⟩ := target
  cases dialect with
  | generic =>
    show (Fragment.offer _ none (RowValue.expand false _ _ _)).bare = _
    rw [refused.expand, Fragment.bare_offer, Option.getD_none, Fragment.bare_fail]
  | spanner =>
    show (Fragment.offer _ (some (RowValue.expand true _ _ _)) _).bare = _
    rw [refused.expand, Fragment.bare_offer, Option.getD_some, Fragment.bare_fail]

theorem Render.bare_queryPart {query : Query} {names : List String} {cause : Error}
    (refused : query.RefusedFor names cause) (config : Config) (rendered : RenderedQuery) :
    (queryPart ⟨.spanner, config⟩ query rendered names).bare = .fail cause := by
  show (Fragment.offer _ (some (RenderedQuery.renamed _ _ _)) _).bare = _
  rw [refused.renamed, Fragment.bare_offer, Option.getD_some, Fragment.bare_fail]

/-- Of a refused piece there is the cause only, beside offers. -/
theorem Piece.RefusedFor.bare {dialect : Dialect} {piece : Piece} {cause : Error}
    (refused : piece.RefusedFor dialect cause) (config : Config) (clause : Option Clause) :
    (piece.fragment ⟨dialect, config⟩ clause).bare = .fail cause := by
  induction refused with
  | insert present refused =>
    rw [Piece.fragment, Render.statement, Render.insert, present]
    show (Fragment.offer _ (some (Spanner.insertWithConflict _ _ _ _ _)) _).bare = _
    rw [Fragment.bare_offer, Option.getD_some, Spanner.insertWithConflict, refused.conflictRefused?, Fragment.bare_fail]
  | like refused =>
    show (Fragment.offer _ (Spanner.like config _ _ _) _).bare = _
    rw [refused.like, Fragment.bare_offer, Option.getD_some, Fragment.bare_fail]
  | summarization => rfl
  | rowExpansion refused ranges =>
    rw [Piece.fragment, RowValue.RefusedFor.expand, Fragment.bare_fail]
    rwa [Render.exprs_length, Render.exprs_length]
  | rowComparison refused => exact Render.bare_rowComparison _ refused
  | emulatedRows refused comparable =>
    show (RowValue.emulate _ (.row _) _ (.row _)).bare = _
    rw [RowValue.emulate_rows _ _ _ comparable]
    exact Render.bare_rowComparison _ refused
  | emulatedSubquery row limited comparable =>
    show (RowValue.emulate _ (.row _) _ (.subquery _ (Render.query _ _))).bare = _
    rw [RowValue.emulate_limited _ _ comparable, Fragment.bare_fail]
    rw [Render.query_parts, Render.optional_eq_map, Render.optional_eq_map]
    simpa [Option.isSome_iff_ne_none] using limited
  | comparison refused other ih =>
    -- without the two memberships Spanner's comparison is the emulated one
    show (Fragment.offer _ (some (Spanner.comparison _ _ _ _)) _).bare = _
    rw [Fragment.bare_offer, Option.getD_some, Spanner.comparison]
    · exact ih
    · rintro rendered rfl same
      obtain ⟨nested, rfl⟩ := Render.exists_of_operand_subquery same
      exact other nested (.inl ⟨rfl, rfl⟩)
    · rintro rendered rfl same
      obtain ⟨nested, rfl⟩ := Render.exists_of_operand_subquery same
      exact other nested (.inr ⟨rfl, rfl⟩)
  | renamed refused => exact congrArg Fragment.bare (refused.renamed _)
  | queryPart refused => exact Render.bare_queryPart refused config _
  | derivedQuery refused aliasName lateral =>
    cases lateral with
    | false =>
      show (Fragment.offer _ none (.nil ++ Render.queryPart _ _ _ _ ++ Render.derivedAlias _ _)).bare = _
      rw [Fragment.bare_offer, Option.getD_none, Fragment.nil_append, Fragment.bare_append,
        Render.bare_queryPart refused, Fragment.fail_append]
    | true =>
      show (Fragment.offer _ (Spanner.derivedTable ⟨_, _, _, true⟩ (.query _ _)) _).bare = _
      simp only [Spanner.derivedTable, if_true, refused.namesRefused?, Fragment.bare_offer, Option.getD_some,
        Fragment.bare_fail]

namespace Session

variable {session : Session} {fragment : Fragment}

/-- Offers on their own leave no trace in a session. -/
theorem same_add (session : Session) (silent : fragment.bare.marks = []) : session.Same (session.add fragment) := by
  refine ⟨rfl, rfl, ?_⟩
  have same : (session.add fragment).marks.filter (!·.isOffer) = session.marks.filter (!·.isOffer) := by
    show (session.marks ++ fragment.marks.map _).filter _ = _
    rw [List.filter_append, Mark.filter_within fun _ _ _ => rfl]
    exact (congrArg (session.marks.filter (!·.isOffer) ++ ·) silent).trans (List.append_nil _)
  rw [finish, finish, ← Rendering.ofMarks_bare _ (session.add fragment).marks, same, Rendering.ofMarks_bare]
  rfl

theorem add_append (session : Session) {first second : Fragment} (whole : first.failure = none) :
    session.add (first ++ second) = (session.add first).add second := by
  rw [add, Fragment.marks_append, whole]
  simp [add, clause?]

/-- An offer to the dialect: what the dialect writes, and what came of it. -/
def offer (session : Session) (offer : Offer) : Session × Outcome :=
  let answer := offer.answer session.target session.clause?
  let outcome := Fragment.outcome answer.own
  (session.add (.mark (.offer answer.construct none outcome) ++ answer.own.getD .nil), outcome)

/-- What is left to the standard rendering. -/
def standard (session : Session) (offer : Offer) : Fragment :=
  (offer.answer session.target session.clause?).standard

theorem write_piece (session : Session) {offer : Offer} {own : Option Fragment}
    (answered : (offer.answer session.target session.clause?).own = own) :
    session.write offer.piece =
      (session.add (.offer (offer.answer session.target session.clause?).construct own (session.standard offer)),
        (own.getD (session.standard offer)).failure) := by
  rw [write, offer.fragment_piece, answered, Fragment.failure_offer]
  rfl

theorem write_deferred (session : Session) {offer : Offer}
    (left : (offer.answer session.target session.clause?).own = none) :
    session.Same (session.offer offer).1 ∧
      session.write offer.piece =
        ((session.offer offer).1.add (session.standard offer), (session.standard offer).failure) := by
  rw [session.write_piece left, Session.offer, left]
  refine ⟨session.same_add rfl, Prod.ext ?_ rfl⟩
  show session.add (.mark _ ++ session.standard offer) = (session.add (.mark _ ++ .nil)).add (session.standard offer)
  rw [Fragment.append_nil, session.add_append (Fragment.failure_mark _)]

theorem write_answered (session : Session) {offer : Offer}
    (own : (offer.answer session.target session.clause?).own ≠ none) :
    (session.write offer.piece).1 = (session.offer offer).1 := by
  obtain ⟨answer, own⟩ := Option.ne_none_iff_exists'.mp own
  rw [session.write_piece own, Session.offer, own]
  rfl

/-- What is left to the standard rendering is rendered in the session as it was, and what the dialect renders or fails
to render is all that is written. Spanner leaves an offer if and only if it has no need of a form of its own. A piece
that is refused for what it is leaves the session as it was, with the cause of the refusal. -/
theorem offers_untouched (session : Session) :
    (∀ offer : Offer,
      ((session.offer offer).2 = .standard ↔ session.target.dialect = .generic ∨ offer.Deferred) ∧
      ((session.offer offer).2 = .standard → session.Same (session.offer offer).1 ∧
        session.write offer.piece =
          ((session.offer offer).1.add (session.standard offer), (session.standard offer).failure)) ∧
      ((session.offer offer).2 ≠ .standard → (session.write offer.piece).1 = (session.offer offer).1)) ∧
    ∀ piece cause, piece.RefusedFor session.target.dialect cause →
      (session.write piece).2 = some cause ∧ session.Same (session.write piece).1 := by
  constructor
  · intro offer
    have left : (session.offer offer).2 = .standard ↔ (offer.answer session.target session.clause?).own = none :=
      Fragment.outcome_eq_standard _
    exact ⟨left.trans (offer.own_eq_none _ _), fun standard => session.write_deferred (left.mp standard),
      fun answered => session.write_answered (left.not.mp answered)⟩
  · intro piece cause refused
    have bare := refused.bare session.target.config session.clause?
    exact ⟨congrArg Fragment.failure bare, session.same_add (congrArg Fragment.marks bare)⟩

/-- A match without an escape is left to the standard rendering, and one with a column for its escape is refused. -/
theorem offers_untouched_like :
    let session : Session := ⟨⟨.spanner, .spanner⟩, [.restriction], [.text "select * from t where ", .table "t"]⟩
    let node : Like := .plain (.named "a") (.named "b")
    let escaped := node.withEscape (.named "c")
    (session.offer (.like node)).2 = .standard ∧ session.Same (session.offer (.like node)).1 ∧
      (session.write (.like escaped)).2 = some .escapeNotCharacter ∧
        session.Same (session.write (.like escaped)).1 := by
  intro session node escaped
  obtain ⟨offers, refusals⟩ := session.offers_untouched
  obtain ⟨deferred, untouched, -⟩ := offers (.like node)
  have left : (session.offer (.like node)).2 = .standard := deferred.mpr (.inr (.like rfl rfl))
  exact ⟨left, (untouched left).1, refusals (.like escaped) .escapeNotCharacter (.like (.escape rfl nofun))⟩

end Session

end PortableSql
