import PortableSql.Proofs.MarkTokens
import PortableSql.Proofs.NestedNode
import PortableSql.Proofs.Refusal

/-! Groupings of groupings, which Spanner lacks.

Spanner refuses them where they are items of a grouping or a partition. Nothing else of a statement is written
with their words, so that they are not in a rendering if they stand nowhere else
(`Statement.render_summarization`). Inside of an item, or of any other expression, they are written
(`Statement.summarization_inside`).
-/

set_option autoImplicit false

namespace PortableSql

/-- Whether no word for a grouping of groupings is among tokens. -/
def Unsummarized (tokens : List ScanToken) : Prop :=
  ∀ word ∈ summaryWords, .ofWord word ∉ tokens

instance (tokens : List ScanToken) : Decidable (Unsummarized tokens) :=
  inferInstanceAs (Decidable (∀ word ∈ summaryWords, .ofWord word ∉ tokens))

namespace Unsummarized

variable {first second : List ScanToken}

theorem nil : Unsummarized [] := fun _ _ => List.not_mem_nil

theorem append (left : Unsummarized first) (right : Unsummarized second) : Unsummarized (first ++ second) :=
  fun word mem own => (List.mem_append.mp own).elim (left word mem) (right word mem)

/-- A number has no words of letters only. -/
theorem figures {text : List Char} (figures : Figures text) : Unsummarized (ScanToken.ofText text) := by
  intro word mem own
  have foreign : ∀ word ∈ summaryWords, word.toList.all isFigure = false := by decide
  have all : word.toList.all isFigure = true :=
    List.all_eq_true.mpr fun c letter => figures c (ScanToken.subset_of_mem_ofText own letter)
  exact absurd all (Bool.eq_false_iff.mp (foreign word mem))

end Unsummarized

/-- Whether a text has neither quotes nor a word for a grouping of groupings. -/
structure SummaryFree (name : String) : Prop where
  unquoted : '\'' ∉ name.toList
  wordless : Unsummarized (ScanToken.ofText name.toList)

instance (name : String) : Decidable (SummaryFree name) :=
  decidable_of_iff ('\'' ∉ name.toList ∧ Unsummarized (ScanToken.ofText name.toList))
    ⟨fun ⟨unquoted, wordless⟩ => ⟨unquoted, wordless⟩, fun name => ⟨name.unquoted, name.wordless⟩⟩

theorem SummaryFree.names {names : List String} (free : ∀ name ∈ names, SummaryFree name) :
    SummaryFree (String.intercalate "," names) where
  unquoted := not_mem_intercalate (by decide) fun name mem => (free name mem).unquoted
  wordless := by
    have comma : Unsummarized [.sign ','] := by decide
    exact ScanToken.ofText_names Unsummarized .nil (fun own others => own.append (comma.append others))
      fun name mem => (free name mem).wordless

theorem Value.unsummarized {config : Config} (double : SummaryFree (config.typeName .double)) (value : Value) :
    Unsummarized (value.tokens config) := by
  -- Words before and behind a literal, whatever is in it.
  have literal (before after : List ScanToken) (content : List Char) (head : Unsummarized before)
      (tail : Unsummarized after) : Unsummarized (before ++ .literal content :: after) :=
    head.append fun word mem own => (List.mem_cons.mp own).elim nofun (tail word mem)
  cases value with
  | null => exact (by decide : Unsummarized [.ofWord "null"])
  | bool value => exact (by cases value <;> decide : Unsummarized [.ofWord (if value then "true" else "false")])
  | int value => exact .figures (.toString _)
  | float x =>
    show Unsummarized (if Decimal.isFinite x then _ else _)
    split
    · exact .figures (.float _ x)
    · have opening := literal [.ofWord "cast", .sign '('] [.ofWord "as"]
      have closing : Unsummarized [.sign ')'] := by decide
      exact ((opening _ (by decide) (by decide)).append double.wordless).append closing
  | string text => exact literal [] [] _ .nil .nil
  | date value => exact literal [.ofWord "date"] [] _ (by decide) .nil
  | timestamp value => exact literal [.ofWord "timestamp"] [] _ (by decide) .nil

/-- What nests has no words for groupings of groupings, if names have none. -/
theorem Nests.unsummarized {config : Config} {Name : String → Prop} (admits : ∀ name, Name name → SummaryFree name)
    {free : Bool} {before after : Nat} {fragment : Fragment}
    (nests : Nests ⟨.spanner, config⟩ Name free before fragment after) (whole : fragment.failure = none) :
    Unsummarized (fragment.tokens config) := by
  have written {text : String} (free : SummaryFree text) : Unsummarized ((Fragment.text text).tokens config) := by
    rw [Fragment.tokens_unquoted free.unquoted]
    exact free.wordless
  have silent (mark : Mark) (nothing : mark.sql config = "") : Unsummarized ((Fragment.mark mark).tokens config) := by
    rw [Fragment.tokens_silent nothing]
    exact .nil
  induction nests with
  | nil => exact .nil
  | words leads => exact written ⟨leads.unquoted, leads.plain⟩
  | distinctness standard => contradiction
  | name admitted => exact written (admits _ admitted)
  | names admitted => exact written (.names fun name mem => admits name (admitted name mem))
  | value value double =>
    rw [value.tokens_fragment (admits _ double).unquoted]
    exact value.unsummarized (admits _ double)
  | literal content =>
    rw [Fragment.tokens_literal]
    exact fun word _ own => nomatch List.mem_singleton.mp own
  | bucket =>
    rw [Fragment.tokens_text, LiteralEscape.tokens_bucket_alone]
    decide
  | placeholder parameter =>
    rw [Fragment.tokens_placeholder]
    decide
  | table name => exact silent _ rfl
  | lock left => exact silent _ rfl
  | offer free depth construct outcome => exact silent _ rfl
  | fail => contradiction
  | append left right ihl ihr =>
    obtain ⟨first, second⟩ := Fragment.failure_append_eq_none.mp whole
    rw [Fragment.tokens_append first]
    exact (ihl first).append (ihr second)
  | inClause clause nests ih =>
    rw [Fragment.tokens_inClause]
    exact ih whole
  | freely nests ih => exact ih whole
  | deeper nests ih => exact ih whole

/-- Whether all groupings of groupings that Spanner comes to are items of a grouping or a partition. -/
def Statement.SummarizesItems (statement : Statement) : Prop :=
  ∀ node, Dialect.spanner.Visits (.statement statement) node → ∀ kind groupings,
    .expr (.summarization kind groupings) ∈ node.visits .spanner → ∃ item, node = .item item

/-- If groupings of groupings are items, then Spanner refuses a statement in which it comes to one; and if it renders
the statement, then their words are not in it unless a name brings them in. -/
theorem Statement.render_summarization (statement : Statement) (config : Config) (items : statement.SummarizesItems) :
    ((∃ kind groupings, Dialect.spanner.Visits (.statement statement) (.expr (.summarization kind groupings))) →
        ∃ cause, statement.render ⟨.spanner, config⟩ = .error cause) ∧
      ∀ rendering, statement.render ⟨.spanner, config⟩ = .ok rendering →
        (∀ node, (Node.statement statement).Within node → ∀ name ∈ node.names, SummaryFree name) →
        (∀ text ∈ config.statementTexts, SummaryFree text) →
        Unsummarized (config.literalEscape.tokens rendering.sql.toList) := by
  have refused (kind : SummarizationKind) (groupings : List Expr)
      (visited : Dialect.spanner.Visits (.statement statement) (.expr (.summarization kind groupings))) :
      ∃ cause, statement.render ⟨.spanner, config⟩ = .error cause := by
    rcases visited.cases_tail with same | ⟨node, path, mem⟩
    · contradiction
    · obtain ⟨item, rfl⟩ := items node path kind groupings mem
      obtain rfl : Expr.summarization kind groupings = item := by simpa [Node.visits] using mem
      exact (statement.render_fails_iff config).2.mpr ⟨_, path, .summarization kind groupings⟩
  constructor
  · rintro ⟨kind, groupings, visited⟩
    exact refused kind groupings visited
  intro rendering rendered names texts
  have summarized (inner : Node) (visited : Dialect.spanner.Visits (.statement statement) inner) :
      inner.summary = [] := by
    cases inner with
    | expr e =>
      cases e with
      | summarization kind groupings =>
        obtain ⟨cause, fails⟩ := refused kind groupings visited
        rw [fails] at rendered
        contradiction
      | star | literal | column | parameter | arithmetic | function | window | tuple | subquery => rfl
    | statement | query | group | table | predicate | item => rfl
  have nested : (Node.statement statement).Nested ⟨.spanner, config⟩ SummaryFree := by
    refine Render.node_nested _ texts fun inner visited => ?_
    rw [summarized inner visited, List.append_nil]
    exact names inner (Node.within_of_visits visited)
  have unquoted : statement.Unquoted config :=
    ⟨fun node within name mem => (names node within name mem).unquoted, fun text mem => (texts text mem).unquoted⟩
  obtain ⟨whole, tokens⟩ := Statement.tokens_sql unquoted rendered
  rw [tokens]
  exact nested.alone.unsummarized (fun _ free => free) whole

/-- `select a from t`, grouped by one item. -/
def Statement.grouped (item : Expr) : Statement :=
  .select { Query.empty with
    selections := [⟨.column { name := "a" }, none⟩]
    sources := [⟨.named { table := "t" }, []⟩]
    groupBy := [item] }

-- `rollup(a)`.
def Expr.rolledUp : Expr := .summarization .rollup [.column { name := "a" }]

theorem Statement.grouped_visits (item : Expr) : Dialect.spanner.Visits (.statement (grouped item)) (.item item) :=
  -- The item follows the selection and the source of the query.
  (Relation.ReflTransGen.refl.tail (.head _)).tail (.tail _ (.tail _ (.head _)))

theorem Statement.render_summarization_grouped :
    (grouped .rolledUp).SummarizesItems ∧
      Dialect.spanner.Visits (.statement (grouped .rolledUp)) (.expr .rolledUp) ∧
      (∃ cause, (grouped .rolledUp).render ⟨.spanner, .spanner⟩ = .error cause) ∧
      (grouped (.column { name := "a" })).SummarizesItems ∧
      (∀ node, (Node.statement (grouped (.column { name := "a" }))).Within node →
        ∀ name ∈ node.names, SummaryFree name) ∧
      (∀ text ∈ Config.spanner.statementTexts, SummaryFree text) ∧
      ∃ rendering, (grouped (.column { name := "a" })).render ⟨.spanner, .spanner⟩ = .ok rendering ∧
        rendering.sql = "select a from t group by a" ∧
        Unsummarized (LiteralEscape.backslash.tokens rendering.sql.toList) := by
  have items (item : Expr) (alone : item = .rolledUp ∨ item = .column { name := "a" }) :
      (grouped item).SummarizesItems := by
    have each : (Node.statement (grouped item)).Everywhere fun node => ∀ kind groupings,
        .expr (.summarization kind groupings) ∈ node.visits .spanner → ∃ item, node = .item item := by
      rcases alone with rfl | rfl <;>
        simp [grouped, Expr.rolledUp, Node.everywhere_iff, Node.children, Node.visits, Statement.visits, Query.nodes,
          Query.empty, Query.visits, Query.core, Predicate.visited, Predicate.effective?, Expr.nodes, TableGroup.nodes,
          TableGroup.visits, TableRef.nodes]
    exact fun node visited => each node (Node.within_of_visits visited)
  have visited := (grouped_visits .rolledUp).tail (.head _)
  have names : (Node.statement (grouped (.column { name := "a" }))).Everywhere fun node =>
      ∀ name ∈ node.names, SummaryFree name := by
    simp [grouped, Node.everywhere_iff, Node.children, Query.nodes, Query.empty, Expr.nodes, TableGroup.nodes,
      TableRef.nodes, Node.names, NamedTable.names, ColumnRef.names]
    decide
  have texts : ∀ text ∈ Config.spanner.statementTexts, SummaryFree text := by decide
  have refused := (grouped .rolledUp).render_summarization .spanner (items _ (.inl rfl))
  have written := (grouped (.column { name := "a" })).render_summarization .spanner (items _ (.inr rfl))
  exact ⟨items _ (.inl rfl), visited, refused.1 ⟨_, _, visited⟩, items _ (.inr rfl), names, texts, _, rfl,
    by decide +kernel, written.2 _ rfl names texts⟩

/-- Inside of an item that is a row, a grouping of groupings is written. -/
theorem Statement.summarization_inside :
    let statement := grouped (.tuple [.rolledUp, .column { name := "b" }])
    Dialect.spanner.Visits (.statement statement) (.expr .rolledUp) ∧
      (∀ node, (Node.statement statement).Within node → ∀ name ∈ node.names, SummaryFree name) ∧
      ∃ rendering, statement.render ⟨.spanner, .spanner⟩ = .ok rendering ∧
        rendering.sql = "select a from t group by (rollup(a),b)" ∧
        .ofWord "rollup" ∈ LiteralEscape.backslash.tokens rendering.sql.toList := by
  have names : (Node.statement (grouped (.tuple [.rolledUp, .column { name := "b" }]))).Everywhere fun node =>
      ∀ name ∈ node.names, SummaryFree name := by
    simp [grouped, Expr.rolledUp, Node.everywhere_iff, Node.children, Query.nodes, Query.empty, Expr.nodes,
      TableGroup.nodes, TableRef.nodes, Node.names, NamedTable.names, ColumnRef.names]
    decide
  exact ⟨(((grouped_visits _).tail (.head _)).tail (.head _)), names, _, rfl, by decide +kernel, by decide +kernel⟩

end PortableSql
