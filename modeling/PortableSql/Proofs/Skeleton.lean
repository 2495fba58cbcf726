import PortableSql.Proofs.ChangeCondition
import PortableSql.Proofs.MarkTokens
import PortableSql.Proofs.NestedNode

/-! The skeleton of a rendering: its parentheses, and the clauses of its outermost query.

A fragment that nests has the depths that it says, and outside of its parentheses the clause words that it may
have (`Nests.runs`). So parentheses always close what they opened, in either dialect; and of a query that
Spanner renders the clause words outside of all parentheses are those of its own clauses
(`Statement.render_skeleton`).
-/

set_option autoImplicit false

namespace PortableSql

open ScanToken (Runs)

/-- Whether a name is an identifier that is no clause word. -/
structure PlainIdentifier (name : String) : Prop where
  inhabited : name ≠ ""
  letters : name.toList.all ScanToken.isLetter = true
  other : (ScanToken.ofWord name).isClauseWord = false

instance (name : String) : Decidable (PlainIdentifier name) :=
  decidable_of_iff
    (name ≠ "" ∧ name.toList.all ScanToken.isLetter = true ∧ (ScanToken.ofWord name).isClauseWord = false)
    ⟨fun ⟨inhabited, letters, other⟩ => ⟨inhabited, letters, other⟩,
      fun name => ⟨name.inhabited, name.letters, name.other⟩⟩

namespace PlainIdentifier

variable {name : String} (plain : PlainIdentifier name)

include plain

theorem unquoted : '\'' ∉ name.toList := fun quote =>
  absurd (List.all_eq_true.mp plain.letters _ quote) (by decide)

theorem tokens : ScanToken.ofText name.toList = [.ofWord name] :=
  ScanToken.ofText_letters (fun empty => plain.inhabited (String.toList_inj.mp empty)) plain.letters

theorem runs (depth : Nat) : Runs depth (ScanToken.ofText name.toList) [] depth := by
  rw [plain.tokens]
  exact .of_quiet rfl (List.forall_mem_singleton.mpr plain.other)

end PlainIdentifier

/-- Whether a text has no quotes, no clause words and no parentheses that are not closed in it. -/
structure Bland (name : String) : Prop where
  unquoted : '\'' ∉ name.toList
  runs (depth : Nat) : Runs depth (ScanToken.ofText name.toList) [] depth

theorem PlainIdentifier.bland {name : String} (plain : PlainIdentifier name) : Bland name :=
  ⟨plain.unquoted, plain.runs⟩

theorem Bland.names {names : List String} (bland : ∀ name ∈ names, Bland name) :
    Bland (String.intercalate "," names) where
  unquoted := not_mem_intercalate (by decide) fun name mem => (bland name mem).unquoted
  runs depth := by
    have comma : Runs depth [.sign ','] [] depth := .plain rfl rfl
    exact ScanToken.ofText_names (Runs depth · [] depth) (.nil depth)
      (fun own others => own.append (comma.append others)) fun name mem => (bland name mem).runs depth

theorem Value.runs {config : Config} (double : Bland (config.typeName .double)) (value : Value) (depth : Nat) :
    Runs depth (value.tokens config) [] depth := by
  cases value with
  | null => exact .plain rfl rfl
  | bool value => cases value <;> exact .plain rfl rfl
  | int value => exact .figures (.toString _)
  | float x =>
    show Runs depth (if Decimal.isFinite x then _ else _) [] depth
    split
    · exact .figures (.float _ x)
    · have opening (content : List Char) :
          Runs depth [.ofWord "cast", .sign '(', .literal content, .ofWord "as"] [] (depth + 1) := by
        have word : Runs depth [.ofWord "cast"] [] depth := .plain rfl rfl
        have paren : Runs depth [.sign '('] [] (depth + 1) :=
          ⟨rfl, by simp [ScanToken.clauses, ScanToken.isClauseWord]⟩
        exact (word.append paren).append (.plain rfl rfl)
      have closing : Runs (depth + 1) [.sign ')'] [] depth := ⟨rfl, rfl⟩
      exact ((opening _).append (double.runs (depth + 1))).append closing
  | string text => exact .plain rfl rfl
  | date value => exact .plain rfl rfl
  | timestamp value => exact .plain rfl rfl

/-- A fragment that nests leads to the depth that it says. In Spanner it has no clause words outside of its
parentheses, unless they are free. -/
theorem Nests.runs {target : Target} {Name : String → Prop} (bland : ∀ name, Name name → Bland name) {free : Bool}
    {before after : Nat} {fragment : Fragment} (nests : Nests target Name free before fragment after)
    (whole : fragment.failure = none) :
    ∃ words, Runs before (fragment.tokens target.config) words after ∧
      (target.dialect = .spanner → free = false → words = []) := by
  have silent (mark : Mark) (depth : Nat) (nothing : mark.sql target.config = "") :
      Runs depth ((Fragment.mark mark).tokens target.config) [] depth := by
    rw [Fragment.tokens_silent nothing]
    exact .nil depth
  induction nests with
  | nil free depth => exact ⟨[], .nil depth, fun _ _ => rfl⟩
  | @words free before after words leads =>
    rw [Fragment.tokens_unquoted leads.unquoted]
    refine ⟨_, ⟨leads.reaches, rfl⟩, fun _ hidden => leads.hidden.resolve_left ?_⟩
    rw [hidden]
    exact Bool.false_ne_true
  | @distinctness standard op special =>
    have quotes : '\'' ∉ op.spacedText.toList := by cases op <;> first | contradiction | decide
    refine ⟨[.ofWord "from"], ?_, fun spanner => absurd (standard.symm.trans spanner) (by decide)⟩
    rw [Fragment.tokens_unquoted quotes]
    cases op <;> first | contradiction | decide
  | @name name admitted =>
    rw [Fragment.tokens_unquoted (bland name admitted).unquoted]
    exact ⟨[], (bland name admitted).runs 0, fun _ _ => rfl⟩
  | names admitted =>
    have list := Bland.names fun name mem => bland name (admitted name mem)
    rw [Fragment.names, Fragment.tokens_unquoted list.unquoted]
    exact ⟨[], list.runs 0, fun _ _ => rfl⟩
  | value value double =>
    rw [value.tokens_fragment (bland _ double).unquoted]
    exact ⟨[], value.runs (bland _ double) 0, fun _ _ => rfl⟩
  | literal content =>
    rw [Fragment.tokens_literal]
    exact ⟨[], .plain rfl rfl, fun _ _ => rfl⟩
  | bucket =>
    rw [Fragment.tokens_text, LiteralEscape.tokens_bucket_alone]
    exact ⟨[], .plain rfl rfl, fun _ _ => rfl⟩
  | placeholder parameter =>
    rw [Fragment.tokens_placeholder]
    exact ⟨[], .plain (by decide) (by decide), fun _ _ => rfl⟩
  | table name => exact ⟨[], silent _ 0 rfl, fun _ _ => rfl⟩
  | lock left => exact ⟨[], silent _ 0 rfl, fun _ _ => rfl⟩
  | offer free depth construct outcome => exact ⟨[], silent _ depth rfl, fun _ _ => rfl⟩
  | fail => contradiction
  | append left right ihl ihr =>
    obtain ⟨first, second⟩ := Fragment.failure_append_eq_none.mp whole
    obtain ⟨words, head, hidden⟩ := ihl first
    obtain ⟨words', tail, hidden'⟩ := ihr second
    rw [Fragment.tokens_append first]
    refine ⟨words ++ words', head.append tail, fun spanner closed => ?_⟩
    rw [hidden spanner closed, hidden' spanner closed]
    rfl
  | inClause clause nests ih =>
    rw [Fragment.tokens_inClause]
    exact ih whole
  | freely nests ih =>
    obtain ⟨words, run, _⟩ := ih whole
    exact ⟨words, run, fun _ closed => absurd closed (by decide)⟩
  | deeper nests ih =>
    obtain ⟨words, run, _⟩ := ih whole
    exact ⟨[], run.deeper, fun _ _ => rfl⟩

def Predicate.hasAtom (restriction : Option Predicate) : Bool :=
  restriction.any fun p => !p.atoms.isEmpty

theorem Predicate.hasAtom_eq (restriction : Option Predicate) :
    hasAtom restriction = (effective? restriction).isSome := by
  rw [Bool.eq_iff_iff, Option.isSome_iff_ne_none, ne_eq, effective?_eq_none]
  cases restriction <;> simp [hasAtom]

/-- The clause words of a query, in the order of its clauses. -/
def Query.clauseWords (query : Query) : List ScanToken :=
  let words :=
    ["select"] ++ (if query.sources.isEmpty then [] else ["from"])
      ++ (if Predicate.hasAtom query.restriction then ["where"] else [])
      ++ (if query.groupBy.isEmpty then [] else ["group", "by"])
      ++ (if Predicate.hasAtom query.having then ["having"] else [])
      ++ (if query.orderBy.isEmpty then [] else ["order", "by"])
      ++ (if query.fetch.isSome then ["limit"] else [])
      ++ (if query.offset.isSome then ["offset"] else [])
  words.map ScanToken.ofWord

/-- Whether a text without quotes has just these clause words. -/
structure Heading (text : String) (words : List ScanToken) : Prop where
  unquoted : '\'' ∉ text.toList
  runs : Runs 0 (ScanToken.ofText text.toList) words 0

instance (text : String) (words : List ScanToken) : Decidable (Heading text words) :=
  decidable_of_iff ('\'' ∉ text.toList ∧ Runs 0 (ScanToken.ofText text.toList) words 0)
    ⟨fun ⟨unquoted, runs⟩ => ⟨unquoted, runs⟩, fun heading => ⟨heading.unquoted, heading.runs⟩⟩

/-- Whether a fragment closes its parentheses, and has these clause words outside of them, if it does not fail. -/
def Fragment.Outlines (config : Config) (fragment : Fragment) (words : List ScanToken) : Prop :=
  fragment.failure = none → Runs 0 (fragment.tokens config) words 0

namespace Fragment.Outlines

variable {config : Config} {first second fragment : Fragment} {words words' : List ScanToken}

theorem nil : Outlines config .nil [] := fun _ => .nil 0

theorem append (left : Outlines config first words) (right : Outlines config second words') :
    Outlines config (first ++ second) (words ++ words') := by
  intro whole
  obtain ⟨head, tail⟩ := failure_append_eq_none.mp whole
  rw [tokens_append head]
  exact (left head).append (right tail)

theorem inClause (clause : Clause) (outlines : Outlines config fragment words) :
    Outlines config (.inClause clause fragment) words := by
  intro whole
  rw [tokens_inClause]
  exact outlines whole

theorem text {text : String} (heading : Heading text words) : Outlines config (.text text) words := by
  intro _
  rw [tokens_unquoted heading.unquoted]
  exact heading.runs

theorem onlyIf {condition : Bool} (outlines : Outlines config fragment words) :
    Outlines config (.onlyIf condition fragment) (if condition then words else []) := by
  cases condition with
  | true => exact outlines
  | false => exact nil

theorem offered (construct : Construct) {standard : Fragment} (outlines : Outlines config fragment words) :
    Outlines config (.offer construct (some fragment) standard) words := by
  have note : Outlines config (.mark (.offer construct none (Fragment.outcome (some fragment)))) [] := by
    intro _
    rw [tokens_silent rfl]
    exact .nil 0
  exact note.append outlines

/-- What nests without free clause words has none. -/
theorem of_nests {Name : String → Prop} (bland : ∀ name, Name name → Bland name)
    (nests : Nests ⟨.spanner, config⟩ Name false 0 fragment 0) : Outlines config fragment [] := by
  intro whole
  obtain ⟨words, run, hidden⟩ := nests.runs bland whole
  exact hidden rfl rfl ▸ run

end Fragment.Outlines

namespace Render

open Fragment (Outlines)

variable {config : Config} {Name : String → Prop} (bland : ∀ name, Name name → Bland name)

include bland

theorem clause_outlined {α : Type} {render : α → Fragment} {items : List α} {text : String}
    {words : List ScanToken} (clause : Clause) (heading : Heading text words)
    (nests : ∀ fragment ∈ items.map render, Nests ⟨.spanner, config⟩ Name false 0 fragment 0) :
    Outlines config (.onlyIf (!(items.map render).isEmpty)
      (.inClause clause (.text text ++ .separated "," (items.map render))))
      (if items.isEmpty then [] else words) := by
  have opening : Outlines config (.text text) words := .text heading
  have list : Outlines config (.separated "," (items.map render)) [] := .of_nests bland (.listed nests)
  have keyed := (opening.append list).inClause clause
  rw [List.append_nil] at keyed
  cases items with
  | nil => exact .nil
  | cons item items => exact keyed

theorem restriction_outlined {restriction : Option Predicate} {text : String} {words : List ScanToken}
    (clause : Clause) (heading : Heading text words)
    (visited : ∀ node ∈ Predicate.visited restriction, node.Nested ⟨.spanner, config⟩ Name) :
    Outlines config (RowValue.restriction clause text (condition ⟨.spanner, config⟩ restriction))
      (if Predicate.hasAtom restriction then words else []) := by
  rw [condition_eq_map, Predicate.hasAtom_eq]
  unfold Predicate.visited at visited
  cases effective : Predicate.effective? restriction with
  | none => exact .nil
  | some p =>
    rw [effective] at visited
    have opening : Outlines config (.text text) words := .text heading
    have own : Outlines config (predicate ⟨.spanner, config⟩ p) [] :=
      .of_nests bland (visited (.predicate p) (.head _)).alone
    have keyed := (opening.append own).inClause clause
    rwa [List.append_nil] at keyed

theorem limit_outlined {value : Option Expr} {text : String} {words : List ScanToken} (clause : Clause)
    (heading : Heading text words)
    (nested : ∀ node ∈ value.toList.map Node.expr, node.Nested ⟨.spanner, config⟩ Name) :
    Outlines config
      (.ifSome (optional ⟨.spanner, config⟩ value) fun fragment => .inClause clause (.text text ++ fragment))
      (if value.isSome then words else []) := by
  cases value with
  | none => exact .nil
  | some e =>
    have opening : Outlines config (.text text) words := .text heading
    have own : Outlines config (expr ⟨.spanner, config⟩ e) [] := .of_nests bland (nested (.expr e) (.head _)).alone
    have keyed := (opening.append own).inClause clause
    rwa [List.append_nil] at keyed

/-- Outside of all parentheses Spanner writes the clauses of a query, and no other clause word. -/
theorem query_outlined {nested : Query} (named : ∀ name ∈ (Node.query nested).names, Name name)
    (visited : ∀ node ∈ nested.visits, node.Nested ⟨.spanner, config⟩ Name) :
    Outlines config ((query ⟨.spanner, config⟩ nested).inScope {}) nested.clauseWords := by
  simp only [Query.visits, Query.core, List.forall_mem_append] at visited
  obtain ⟨⟨⟨⟨selected, ⟨⟨sources, restricted⟩, grouped⟩, having⟩, sorted⟩, offset⟩, fetch⟩ := visited
  have titles (selection : Selection) (mem : selection ∈ nested.selections) :
      ∀ name ∈ selection.aliasName, Name name :=
    fun name own => named name (List.mem_flatMap.mpr ⟨selection, mem, Option.mem_toList.mpr own⟩)
  have list : Outlines config (selections {} (selectionList ⟨.spanner, config⟩ nested.selections)) [] :=
    .of_nests bland (selections_nested (fun _ mem => absurd mem List.not_mem_nil) titles selected)
  have distinct : Outlines config (.onlyIf nested.distinct (.text "distinct ")) [] := by
    have word : Outlines config (.text "distinct ") [] := .text (by decide)
    have only : Outlines config (.onlyIf nested.distinct (.text "distinct "))
      (if nested.distinct then [] else []) :=
      word.onlyIf
    rwa [ite_self] at only
  have select : Outlines config
      (selectClause ⟨.spanner, config⟩ nested.distinct {} (selectionList ⟨.spanner, config⟩ nested.selections))
      [.ofWord "select"] := by
    have word : Outlines config (.text "select ") [.ofWord "select"] := .text (by decide)
    exact (((word.append .nil).append distinct).append list).offered .selectClause
  have from_ := groups_nested sources
  have items := partitionItems_nested grouped
  have sorts := sortItems_nested sorted
  rw [groups_eq_map] at from_
  rw [partitionItems_eq_map] at items
  rw [sortItems_eq_map] at sorts
  have limits : Outlines config (offsetFetch ⟨.spanner, config⟩ (optional ⟨.spanner, config⟩ nested.offset)
      (optional ⟨.spanner, config⟩ nested.fetch)) _ :=
    ((limit_outlined bland .fetch (by decide : Heading " limit " [.ofWord "limit"]) fetch).append
      (limit_outlined bland .offset (by decide : Heading " offset " [.ofWord "offset"]) offset)).offered .offsetFetch
  have locks : Outlines config (.ifSome nested.lock (locking ⟨.spanner, config⟩)) [] :=
    .of_nests bland (.ifSome fun lock _ => .append (.lock fun _ => rfl) (.nil false 0))
  have whole := (((((((select.inClause .select).append
    (clause_outlined bland .sources (by decide : Heading " from " [.ofWord "from"]) from_)).append
    (restriction_outlined bland .restriction (by decide : Heading " where " [.ofWord "where"]) restricted)).append
    (clause_outlined bland .groupBy (by decide : Heading " group by " [.ofWord "group", .ofWord "by"]) items)).append
    (restriction_outlined bland .having (by decide : Heading " having " [.ofWord "having"]) having)).append
    (clause_outlined bland .orderBy (by decide : Heading " order by " [.ofWord "order", .ofWord "by"]) sorts)).append
    limits).append locks
  simp only [query_inScope, query_parts, queryInScope, groups_eq_map, RowValue.grouping, partitionItems_eq_map,
    sortItems_eq_map, Query.clauseWords, List.map_append, apply_ite (List.map ScanToken.ofWord), List.map_nil,
    List.map_cons]
  simpa only [List.append_nil, List.append_assoc] using whole

end Render

theorem Node.summary_plain (node : Node) : ∀ name ∈ node.summary, PlainIdentifier name := by
  cases node with
  | expr e =>
    cases e with
    | summarization kind groupings => cases kind <;> exact List.forall_mem_singleton.mpr (by decide)
    | star | literal | column | parameter | arithmetic | function | window | tuple | subquery => nofun
  | statement | query | group | table | predicate | item => nofun

/-- In a rendering every parenthesis closes what it opened, if names are identifiers and no clause words. If
Spanner renders a query, then the clause words outside of all parentheses are those of its own clauses. -/
theorem Statement.render_skeleton (statement : Statement) (target : Target)
    (names : ∀ node, (Node.statement statement).Within node → ∀ name ∈ node.names, PlainIdentifier name)
    (texts : ∀ text ∈ target.config.statementTexts, PlainIdentifier text) {rendering : Rendering}
    (rendered : statement.render target = .ok rendering) :
    let tokens := target.config.literalEscape.tokens rendering.sql.toList
    ScanToken.depth? 0 tokens = some 0 ∧
      (target.dialect = .spanner → ∀ query, statement = .select query →
        ScanToken.clauses 0 tokens = query.clauseWords) := by
  have unquoted : statement.Unquoted target.config :=
    ⟨fun node within name mem => (names node within name mem).unquoted, fun text mem => (texts text mem).unquoted⟩
  have named (inner : Node) (visited : target.dialect.Visits (.statement statement) inner) :
      ∀ name ∈ inner.names ++ inner.summary, PlainIdentifier name :=
    List.forall_mem_append.mpr ⟨names inner (Node.within_of_visits visited), inner.summary_plain⟩
  have nested (inner : Node) (visited : target.dialect.Visits (.statement statement) inner) :
      inner.Nested target PlainIdentifier :=
    Render.node_nested inner texts fun deeper path => named deeper (visited.trans path)
  have bland (name : String) (plain : PlainIdentifier name) : Bland name := plain.bland
  constructor
  · obtain ⟨whole, depth⟩ := Statement.depth?_sql unquoted rendered 0
    obtain ⟨_, run, _⟩ := (nested (.statement statement) .refl).alone.runs bland whole
    exact depth.trans run.reaches
  · rintro spanner query rfl
    obtain ⟨dialect, config⟩ := target
    obtain rfl : dialect = .spanner := spanner
    obtain ⟨whole, tokens⟩ := Statement.tokens_sql unquoted rendered
    have inside : Dialect.spanner.Visits (.statement (.select query)) (.query query) := .single (.head _)
    have run := Render.query_outlined bland (names (.query query) (.single (.head _)))
      (fun node mem => nested node (inside.tail mem)) whole
    rw [tokens]
    exact run.shows

/-- `select a,rank() over (partition by b order by c) r from t where exists (select * from (select b from u) d order
by b limit 2) group by a having a>? order by a limit 3 offset 4`, with an empty condition beside the last one. -/
def Statement.selectGrouped : Statement :=
  let column (name : String) : Expr := .column { name }
  let derived : Query := { Query.empty with
    selections := [⟨column "b", none⟩]
    sources := [⟨.named { table := "u" }, []⟩] }
  let tested : Query := { Query.empty with
    selections := [⟨.star, none⟩]
    sources := [⟨.derived ⟨.query derived, "d", [], false⟩, []⟩]
    orderBy := [⟨column "b", false, none⟩]
    fetch := some (.literal (.int 2)) }
  .select {
    distinct := false
    selections := [⟨column "a", none⟩,
      ⟨.window ⟨"rank", [], .other⟩ [column "b"] [⟨column "c", false, none⟩], some "r"⟩]
    sources := [⟨.named { table := "t" }, []⟩]
    restriction := some (.existence tested false)
    groupBy := [column "a"]
    having := some (.junction .or [.junction .and [], .comparison (column "a") .gt (.parameter {})])
    orderBy := [⟨column "a", false, none⟩]
    offset := some (.literal (.int 4))
    fetch := some (.literal (.int 3))
    lock := none }

theorem Statement.render_skeleton_selectGrouped :
    (∀ node, (Node.statement selectGrouped).Within node → ∀ name ∈ node.names, PlainIdentifier name) ∧
      (∀ text ∈ Config.spanner.statementTexts, PlainIdentifier text) ∧
      ∃ rendering, selectGrouped.render ⟨.spanner, .spanner⟩ = .ok rendering ∧
        rendering.sql = "select a,rank() over (partition by b order by c) r from t where exists (select * from " ++
          "(select b from u) d order by b limit 2) group by a having a>? order by a limit 3 offset 4" ∧
        ScanToken.depth? 0 (LiteralEscape.backslash.tokens rendering.sql.toList) = some 0 ∧
        ScanToken.clauses 0 (LiteralEscape.backslash.tokens rendering.sql.toList) =
          ["select", "from", "where", "group", "by", "having", "order", "by", "limit", "offset"].map .ofWord := by
  have names : (Node.statement selectGrouped).Everywhere fun node => ∀ name ∈ node.names, PlainIdentifier name := by
    simp [selectGrouped, Node.everywhere_iff, Node.children, Query.nodes, Query.empty, Predicate.nodes, Expr.nodes,
      FunctionCall.nodes, TableGroup.nodes, TableRef.nodes, Node.names, NamedTable.names, DerivedTable.names,
      ColumnRef.names]
    decide
  have texts : ∀ text ∈ Config.spanner.statementTexts, PlainIdentifier text := by decide
  obtain ⟨level, words⟩ := Statement.render_skeleton selectGrouped ⟨.spanner, .spanner⟩ names texts rfl
  exact ⟨names, texts, _, rfl, by decide +kernel, level, words rfl _ rfl⟩

end PortableSql
