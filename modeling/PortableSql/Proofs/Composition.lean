import PortableSql.Proofs.Family
import PortableSql.Proofs.Truth
import PortableSql.Render.Statement

/-! Constructs are put together from the pieces of the renderer.

What composes (`Composes`) holds of a construct if it holds of the parts of the construct, in each
dialect. Most constructs begin with a word, so that they may stand after a literal; one that begins
with an operand does not.
-/

set_option autoImplicit false

namespace PortableSql

/-- A selection with its alias, for each choice of contents. -/
def Selected (Name : String → Prop) (P : Bool → Family → Bool → Prop)
    (selection : Contents → Fragment × Option String) : Prop :=
  ∃ family aliasName, selection = (fun contents => (family contents, aliasName)) ∧
    P false family true ∧ ∀ name ∈ aliasName, Name name

theorem Each.fragments {Name : String → Prop} {P : Bool → Family → Bool → Prop}
    {selections : Contents → List (Fragment × Option String)} (each : Each (Selected Name P) selections) :
    Each (Inside P) fun contents => (selections contents).map Prod.fst := by
  obtain ⟨members, rfl, kind⟩ := each
  refine ⟨members.map fun member contents => (member contents).1, ?_, ?_⟩
  · simp only [List.map_map, Function.comp_def]
  · refine List.forall_mem_map.mpr fun member mem => ?_
    obtain ⟨family, _, rfl, piece, _⟩ := kind member mem
    exact piece

/-- Whether the parts of a query compose. -/
structure QueryParts.Composed (Name : String → Prop) (P : Bool → Family → Bool → Prop)
    (parts : Contents → QueryParts) : Prop where
  distinct : ∃ distinct, ∀ contents, (parts contents).distinct = distinct
  selections : Each (Selected Name P) fun contents => (parts contents).selections
  sources : Each (Inside P) fun contents => (parts contents).sources
  restriction : Perhaps (Inside P) fun contents => (parts contents).restriction
  groupBy : Each (Inside P) fun contents => (parts contents).groupBy
  hasHaving : ∃ present, ∀ contents, (parts contents).hasHaving = present
  having : Perhaps (Inside P) fun contents => (parts contents).having
  orderBy : Each (Inside P) fun contents => (parts contents).orderBy
  offset : Perhaps (Inside P) fun contents => (parts contents).offset
  fetch : Perhaps (Inside P) fun contents => (parts contents).fetch
  lock : ∃ lock, ∀ contents, (parts contents).lock = lock

section

variable {Name : String → Prop} {P : Bool → Family → Bool → Prop} {change : Contents → Contents}
  (closed : ∀ {family before after}, P before family after →
    P before (fun contents => family (change contents)) after)

include closed

/-- What is kept by a change of the contents is kept for selections. -/
theorem Selected.along {selection : Contents → Fragment × Option String}
    (selected : Selected Name P selection) : Selected Name P fun contents => selection (change contents) := by
  obtain ⟨family, aliasName, rfl, piece, own⟩ := selected
  exact ⟨_, aliasName, rfl, closed piece, own⟩

/-- What is kept by a change of the contents is kept for the parts of a query. -/
theorem QueryParts.Composed.along {parts : Contents → QueryParts}
    (composed : QueryParts.Composed Name P parts) :
    QueryParts.Composed Name P fun contents => parts (change contents) where
  distinct := composed.distinct.imp fun _ same contents => same (change contents)
  selections := composed.selections.along fun _ => Selected.along closed
  sources := composed.sources.along fun _ => closed
  restriction := composed.restriction.along fun _ => closed
  groupBy := composed.groupBy.along fun _ => closed
  hasHaving := composed.hasHaving.imp fun _ same contents => same (change contents)
  having := composed.having.along fun _ => closed
  orderBy := composed.orderBy.along fun _ => closed
  offset := composed.offset.along fun _ => closed
  fetch := composed.fetch.along fun _ => closed
  lock := composed.lock.imp fun _ same contents => same (change contents)

end

namespace Composes

variable {target : Target} {Name Content : String → Prop} {Takes : ArithmeticOp → Family → Prop}
  {P : Bool → Family → Bool → Prop} (rules : Composes target.config Name Content Takes P)

include rules

theorem functionOf {name : String} {args : Contents → List Fragment} (named : Name name)
    (each : Each (Inside P) args) :
    P true (fun contents => Render.functionOf name (args contents)) false :=
  rules.append (rules.name true named) (rules.parens (rules.separated (by decide) each))

theorem standardArithmetic {l r : Family} (left : P false l true) (op : ArithmeticOp)
    (right : P false r true) (operand : Takes op r) :
    P true (fun contents => Render.standardArithmetic (l contents) op (r contents)) false := by
  have between : P true (fun contents => .parens (l contents ++ .text op.text ++ r contents)) false :=
    rules.operation op left right operand
  have modulo : P true (fun contents => Render.functionOf "mod" [l contents, r contents]) false :=
    rules.append (rules.words true (by decide))
      (rules.parens (rules.separated (by decide) (.cons left (.cons right .nil))))
  simp only [Render.standardArithmetic]
  split
  · exact modulo
  · exact between

theorem arithmetic {l r : Family} (left : Expr) (op : ArithmeticOp) (right : Expr) (first : P false l true)
    (second : P false r true) (operand : Takes op r) :
    P true (fun contents => Render.arithmetic target (left.revise (contents.below 0).revision) op
      (right.revise (contents.below 1).revision) (l contents) (r contents)) false := by
  have standard := rules.standardArithmetic first op second operand
  obtain ⟨dialect, config⟩ := target
  cases dialect with
  | generic => exact rules.offer_none .arithmetic standard
  | spanner =>
    simp only [Render.arithmetic, Target.overrides, Dialect.overrides, Spanner.overrides,
      Spanner.arithmetic, ArithmeticOp.isIntegerDivision_revise]
    split
    · exact rules.offer_some .arithmetic (rules.append (rules.words true (by decide))
        (rules.parens (rules.append (rules.append first (rules.word (by decide))) second)))
    · exact rules.offer_none .arithmetic standard

theorem sortItem {family : Family} (piece : P false family true) (descending : Bool)
    (nulls : Option NullPrecedence) :
    P false (fun contents => Render.sortItem (family contents) descending nulls) true :=
  rules.append (rules.append piece (rules.onlyIf descending (Bool.le_refl true) (rules.words true (by decide))))
    (rules.ifSome (Bool.le_refl true) fun nulls _ => rules.words true (by cases nulls <;> decide))

theorem window {call : Family} {partitionBy orderBy : Contents → List Fragment}
    (function : P true call false) (partitions : Each (Inside P) partitionBy)
    (sorts : Each (Inside P) orderBy) :
    P true (fun contents => Render.window (call contents) (partitionBy contents) (orderBy contents))
      false := by
  have partition : P true (fun contents => .onlyIf (!(partitionBy contents).isEmpty)
      (.inClause .partition (.text "partition by " ++ .separated "," (partitionBy contents)))) true :=
    rules.clause (by decide) (by decide) partitions
  have order : P true (fun contents => .onlyIf (!(orderBy contents).isEmpty)
      (.inClause .orderBy (.text "order by " ++ .separated "," (orderBy contents)))) true :=
    rules.clause (by decide) (by decide) sorts
  have gap : P true (fun contents =>
      .onlyIf (!(partitionBy contents).isEmpty && !(orderBy contents).isEmpty) (.text " ")) true := by
    obtain ⟨_, rfl, _⟩ := partitions
    obtain ⟨_, rfl, _⟩ := sorts
    simp only [List.isEmpty_map]
    exact rules.onlyIf _ (Bool.le_refl true) (rules.words true (by decide))
  have opening : P true (fun contents => call contents ++ .text " over (") false :=
    rules.append function (rules.anywhere false (rules.word (by decide)))
  exact rules.append (rules.append (rules.append (rules.append opening (rules.anywhere false partition)) gap)
    order) (rules.word (by decide))

theorem compare {left right : Family} (l : P false left true) (op : ComparisonOp) (r : P false right true) :
    P false (fun contents => RowValue.compare (left contents) op (right contents)) true :=
  rules.append (rules.append l (rules.word (by cases op <;> decide))) r

theorem pairwise {left right : Contents → List Fragment} (op : ComparisonOp)
    (l : Each (Inside P) left) (r : Each (Inside P) right) :
    Each (Inside P) fun contents =>
      RowValue.pairwise op (left contents) (right contents) := by
  obtain ⟨lefts, rfl, l⟩ := l
  obtain ⟨rights, rfl, r⟩ := r
  induction lefts generalizing rights with
  | nil => exact .nil
  | cons first lefts ih =>
    cases rights with
    | nil => exact .nil
    | cons second rights =>
      obtain ⟨head, lefts_kind⟩ := List.forall_mem_cons.mp l
      obtain ⟨head', rights_kind⟩ := List.forall_mem_cons.mp r
      exact .cons (rules.compare head op head') (ih lefts_kind rights rights_kind)

theorem lexicographic {lefts rights : List Family} (op : ComparisonOp) (ranges : Bool)
    (same : lefts.length = rights.length) (inhabited : lefts ≠ [])
    (l : ∀ family ∈ lefts, P false family true) (r : ∀ family ∈ rights, P false family true) :
    P false (fun contents => RowValue.lexicographic op ranges (lefts.map fun family => family contents)
      (rights.map fun family => family contents)) true := by
  induction lefts, rights, same, inhabited using Row.induction with
  | single first second => exact rules.compare (l _ List.mem_cons_self) op (r _ List.mem_cons_self)
  | more first second first' second' lefts rights same ih =>
    obtain ⟨head, l⟩ := List.forall_mem_cons.mp l
    obtain ⟨head', r⟩ := List.forall_mem_cons.mp r
    have rest := ih l r
    cases ranges with
    | true =>
      exact rules.append (rules.append (rules.compare head op.inclusive head') (rules.word (by decide)))
        (rules.loose (rules.parens (rules.append (rules.append (rules.compare head op.strict head')
          (rules.word (by decide))) rest)))
    | false =>
      have bracketed : P false (fun contents =>
          if 1 < (first' :: lefts).length then
            .parens (RowValue.lexicographic op false ((first' :: lefts).map fun family => family contents)
              ((second' :: rights).map fun family => family contents))
          else RowValue.lexicographic op false ((first' :: lefts).map fun family => family contents)
            ((second' :: rights).map fun family => family contents)) true := by
        split
        · exact rules.loose (rules.parens rest)
        · exact rest
      have level := rules.append (rules.append (rules.append (rules.append
        (rules.compare head op.strict head') (rules.writes " or " (by decide)))
        (rules.compare head .eq head')) (rules.writes " and " (by decide))) bracketed
      simpa [RowValue.lexicographic] using level

theorem expand {left right : Contents → List Fragment} (ranges : Bool) (op : ComparisonOp)
    (l : Each (Inside P) left) (r : Each (Inside P) right) :
    P false (fun contents => RowValue.expand ranges (left contents) (right contents) op) true := by
  have equal (op : ComparisonOp) (separator : String) (word : IsWord separator) :
      P false (fun contents =>
        .parens (.separated separator (RowValue.pairwise op (left contents) (right contents)))) true :=
    rules.loose (rules.parens (rules.separated word (rules.pairwise op l r)))
  obtain ⟨lefts, rfl, l⟩ := l
  obtain ⟨rights, rfl, r⟩ := r
  simp only [RowValue.expand, List.length_map]
  split
  · exact rules.loose (rules.fail _)
  · next same =>
    match lefts, rights, not_not.mp same with
    | [], [], _ => exact rules.loose (rules.fail _)
    | [first], [second], _ => exact rules.compare (l _ List.mem_cons_self) op (r _ List.mem_cons_self)
    | first :: first' :: lefts, second :: second' :: rights, same =>
      cases op with
      | eq => exact equal .eq " and " (by decide)
      | ne => exact equal .ne " or " (by decide)
      | lt | lte | gt | gte =>
        exact rules.loose (rules.parens
          (rules.lexicographic _ ranges same (List.cons_ne_nil first _) l r))
      | distinctFrom | notDistinctFrom => exact rules.loose (rules.fail _)

theorem rowComparison {left right : Contents → List Fragment} (op : ComparisonOp)
    (l : Each (Inside P) left) (r : Each (Inside P) right) :
    P false (fun contents => Render.rowComparison target (left contents) (right contents) op) true := by
  obtain ⟨dialect, config⟩ := target
  cases dialect with
  | generic => exact rules.offer_none .rowComparison (rules.expand false op l r)
  | spanner => exact rules.offer_some .rowComparison (rules.expand true op l r)

theorem intersection {left right : Contents → Operand} (negated : Bool)
    (l : P false (fun contents => (left contents).selected) true)
    (r : P false (fun contents => (right contents).selected) true) :
    P false (fun contents => RowValue.intersection (left contents) negated (right contents)) true :=
  rules.loose <| rules.append (rules.append (rules.append (rules.append (rules.append
    (rules.onlyIf negated (Bool.le_refl true) (rules.words true (by decide))) (rules.word (by decide))) l)
    (rules.word (by decide))) r) (rules.word (by decide))

theorem restriction {value : Contents → Option Fragment} (clause : Clause) (keyword : String)
    (word : IsWord keyword) (there : Perhaps (Inside P) value) :
    P true (fun contents => RowValue.restriction clause keyword (value contents)) true :=
  rules.perhaps (Bool.le_refl true) there fun _ kind =>
    rules.inClause clause (rules.append (rules.word word) kind)

theorem grouping {items : Contents → List Fragment}
    (each : Each (Inside P) items) :
    P true (fun contents => RowValue.grouping (items contents)) true :=
  rules.clause (by decide) (by decide) each

theorem existence {compareRows : RowComparison} {row : Contents → List Fragment}
    {parts : Contents → QueryParts} (op : ComparisonOp) (negated : Bool)
    (composed : QueryParts.Composed Name P parts)
    (compared : P false (fun contents =>
      compareRows ((parts contents).selections.map Prod.fst) (row contents) op.invert) true) :
    P false (fun contents => RowValue.existence compareRows (row contents) (parts contents) op negated)
      true := by
  have limited : ∃ flag, ∀ contents,
      ((parts contents).fetch.isSome || (parts contents).offset.isSome) = flag := by
    obtain ⟨fetch, same⟩ := composed.fetch.isSome
    obtain ⟨offset, same'⟩ := composed.offset.isSome
    exact ⟨fetch || offset, fun contents => by rw [same, same']⟩
  have grouped : ∃ flag, ∀ contents,
      (!(parts contents).groupBy.isEmpty || (parts contents).hasHaving) = flag := by
    obtain ⟨empty, same⟩ := composed.groupBy.isEmpty
    obtain ⟨present, same'⟩ := composed.hasHaving
    exact ⟨!empty || present, fun contents => by rw [same, same']⟩
  obtain ⟨cut, limited⟩ := limited
  obtain ⟨grouped, same⟩ := grouped
  have opening : P false (fun contents => .onlyIf negated (.text "not ") ++ .text "exists (select 1") false :=
    rules.append (rules.onlyIf negated (Bool.le_refl false) (rules.words false (by decide)))
      (rules.anywhere false (rules.word (by decide)))
  have sources : P true (fun contents => .onlyIf (!(parts contents).sources.isEmpty)
      (.text " from " ++ .separated "," (parts contents).sources)) true :=
    rules.unlessEmpty composed.sources (rules.listed (by decide) (by decide) composed.sources)
  have guarded {value : Contents → Option Fragment}
      (there : Perhaps (Inside P) value) :
      P false (fun contents =>
        .ifSome (value contents) fun fragment => .text "(" ++ fragment ++ .text ") and ") false :=
    rules.perhaps (Bool.le_refl false) there fun family kind =>
      rules.append (rules.append (rules.anywhere false (rules.word (by decide))) kind) (rules.word (by decide))
  simp only [RowValue.existence, limited, same]
  cases cut with
  | true => exact rules.loose (rules.fail _)
  | false =>
    have head := rules.append opening (rules.anywhere false sources)
    cases grouped with
    | true =>
      have groups := rules.append
        (rules.append (rules.restriction .restriction " where " (by decide) composed.restriction)
          (rules.grouping composed.groupBy)) (rules.writes " having " (by decide))
      exact rules.loose (rules.append (rules.append (rules.append (rules.append head groups)
        (guarded composed.having)) compared) (rules.word (by decide)))
    | false =>
      exact rules.loose (rules.append (rules.append (rules.append (rules.append head
        (rules.writes " where " (by decide))) (guarded composed.restriction)) compared)
          (rules.word (by decide)))

theorem aliasText (edge : Bool) {aliasName : String} (named : Name aliasName) :
    P edge (fun _ => .aliasText aliasName) false :=
  rules.append (rules.anywhere edge (rules.word (by decide))) (rules.name false named)

theorem aliased {selections : Contents → List (Fragment × Option String)} {forced : List String}
    (admitted : ∀ name ∈ forced, Name name) (each : Each (Selected Name P) selections) :
    Each (Inside P) fun contents => Render.aliased (selections contents) forced := by
  obtain ⟨members, rfl, kind⟩ := each
  induction members generalizing forced with
  | nil => exact .nil
  | cons selection members ih =>
    obtain ⟨⟨family, aliasName, rfl, piece, own⟩, rest⟩ := List.forall_mem_cons.mp kind
    cases forced with
    | nil =>
      refine .cons ?_ (ih (fun _ mem => absurd mem List.not_mem_nil) rest)
      exact rules.append piece (rules.ifSome (Bool.le_refl true) fun name mem =>
        rules.closed (rules.aliasText true (own name mem)))
    | cons name names =>
      obtain ⟨first, others⟩ := List.forall_mem_cons.mp admitted
      refine .cons ?_ (ih others rest)
      exact rules.append piece (rules.closed (rules.aliasText true first))

theorem selections {selections : Contents → List (Fragment × Option String)} {scope : Scope}
    (admitted : ∀ name ∈ scope.aliases, Name name) (each : Each (Selected Name P) selections) :
    P false (fun contents => Render.selections scope (selections contents)) true := by
  have list : P false
      (fun contents => .separated "," (Render.aliased (selections contents) scope.aliases)) true :=
    rules.separated (by decide) (rules.aliased admitted each)
  obtain ⟨flag, empty⟩ := each.isEmpty
  simp only [Render.selections, empty]
  cases flag with
  | true => exact rules.loose (rules.word (by decide))
  | false => exact list

theorem selectClause {selections : Contents → List (Fragment × Option String)} {scope : Scope}
    (distinct : Bool) (admitted : ∀ name ∈ scope.aliases, Name name)
    (each : Each (Selected Name P) selections) :
    P true (fun contents => Render.selectClause target distinct scope (selections contents)) true := by
  have list := rules.selections admitted each
  have flag (condition : Bool) {words : String} (word : IsWord words) :
      P false (fun _ => .onlyIf condition (.text words)) false :=
    rules.onlyIf condition (Bool.le_refl false) (rules.words false word)
  obtain ⟨dialect, config⟩ := target
  cases dialect with
  | generic =>
    exact rules.offer_none .selectClause (rules.append (rules.append (rules.word (by decide))
      (flag distinct (by decide))) list)
  | spanner =>
    exact rules.offer_some .selectClause (rules.append (rules.append (rules.append
      (rules.word (by decide)) (flag scope.correlated (by decide))) (flag distinct (by decide))) list)

theorem limitOffset {offset fetch : Contents → Option Fragment} (first : Perhaps (Inside P) offset)
    (second : Perhaps (Inside P) fetch) :
    P true (fun contents => Spanner.limitOffset (offset contents) (fetch contents)) true := by
  have after (clause : Clause) {before : String} (start : IsWord before)
      {value : Contents → Option Fragment} (there : Perhaps (Inside P) value) :
      P true (fun contents => .ifSome (value contents) fun fragment =>
        .inClause clause (.text before ++ fragment)) true :=
    rules.perhaps (Bool.le_refl true) there fun _ kind =>
      rules.inClause clause (rules.append (rules.word start) kind)
  exact rules.append (after .fetch (by decide) second) (after .offset (by decide) first)

theorem offsetFetch {offset fetch : Contents → Option Fragment} (first : Perhaps (Inside P) offset)
    (second : Perhaps (Inside P) fetch) :
    P true (fun contents => Render.offsetFetch target (offset contents) (fetch contents)) true := by
  have between (clause : Clause) {before after : String} (start : IsWord before) (stop : IsWord after)
      {value : Contents → Option Fragment} (there : Perhaps (Inside P) value) :
      P true (fun contents => .ifSome (value contents) fun fragment =>
        .inClause clause (.text before ++ fragment ++ .text after)) true :=
    rules.perhaps (Bool.le_refl true) there fun _ kind =>
      rules.inClause clause (rules.append (rules.append (rules.word start) kind) (rules.words true stop))
  have limits := rules.limitOffset first second
  obtain ⟨dialect, config⟩ := target
  cases dialect with
  | generic =>
    exact rules.offer_none .offsetFetch
      (rules.append (between .offset (by decide) (by decide) first)
        (between .fetch (by decide) (by decide) second))
  | spanner => exact rules.offer_some .offsetFetch limits

theorem locking (lock : LockOptions) : P true (fun _ => Render.locking target lock) true := by
  have wait : P true (fun _ => .text lock.wait.text) true := by
    cases lock.wait with
    | wait => exact rules.empty true
    | noWait | skipLocked => exact rules.words true (by decide)
  exact rules.append (rules.lock true _ _) (rules.onlyIf _ (Bool.le_refl true)
    (rules.inClause .forUpdate (rules.append (rules.words true (by cases lock.mode <;> decide)) wait)))

/-- A query composes of its parts, in any scope with admitted aliases. -/
theorem queryInScope {parts : Contents → QueryParts} {scope : Scope}
    (composed : QueryParts.Composed Name P parts) (admitted : ∀ name ∈ scope.aliases, Name name) :
    P true (fun contents => Render.queryInScope target (parts contents) scope) true := by
  obtain ⟨distinct, same⟩ := composed.distinct
  obtain ⟨lock, same'⟩ := composed.lock
  have locks : P true (fun _ => .ifSome lock (Render.locking target)) true :=
    rules.ifSome (Bool.le_refl true) fun options _ => rules.locking options
  simp only [Render.queryInScope, same, same']
  exact rules.append (rules.append (rules.append (rules.append (rules.append (rules.append (rules.append
    (rules.inClause .select (rules.selectClause distinct admitted composed.selections))
    (rules.clause (by decide) (by decide) composed.sources))
    (rules.restriction .restriction " where " (by decide) composed.restriction))
    (rules.grouping composed.groupBy))
    (rules.restriction .having " having " (by decide) composed.having))
    (rules.clause (by decide) (by decide) composed.orderBy))
    (rules.offsetFetch composed.offset composed.fetch)) locks

theorem inList {test : Family} {values : Contents → List Fragment} (tested : P false test true)
    (each : Each (Inside P) values) (negated : Bool) :
    P false (fun contents => Render.inList (test contents) (values contents) negated) true := by
  have list : P false (fun contents => .separated "," (values contents)) true :=
    rules.separated (by decide) each
  obtain ⟨flag, empty⟩ := each.isEmpty
  simp only [Render.inList, empty]
  cases flag with
  | true => exact rules.loose (rules.word (by cases negated <;> decide))
  | false =>
    exact rules.loose (rules.append (rules.append tested (rules.words true (by cases negated <;> decide)))
      (rules.parens list))

theorem inArray {test array : Family} (tested : P false test true) (listed : P false array true) :
    P false (fun contents => Render.inArray target (test contents) (array contents)) true := by
  obtain ⟨dialect, config⟩ := target
  cases dialect with
  | generic =>
    exact rules.offer_none .inArray (rules.loose (rules.append
      (rules.append tested (rules.words true (by decide))) (rules.parens listed)))
  | spanner =>
    exact rules.offer_some .inArray (rules.loose (rules.append
      (rules.append tested (rules.words true (by decide))) (rules.parens listed)))

theorem junctionPart {part : Family} (p : Predicate) (kind : P false part true) :
    Each (Inside P) fun contents =>
      Render.junctionPart (p.revise contents.revision) (part contents) := by
  simp only [Render.junctionPart, Predicate.isEmpty_revise, Predicate.isSeveral_revise]
  split
  · exact .nil
  · split
    · exact .cons (rules.loose (rules.parens kind)) .nil
    · exact .cons kind .nil

theorem join {table : Family} {on : Contents → Option Fragment} (kind : JoinKind)
    (joined : P false table true) (there : Perhaps (Inside P) on) :
    P true (fun contents => Render.join kind (table contents) (on contents)) true :=
  rules.append (rules.append (rules.word (by cases kind <;> decide)) joined)
    (rules.perhaps (Bool.le_refl true) there fun _ piece => rules.append (rules.word (by decide)) piece)

end Composes

end PortableSql
