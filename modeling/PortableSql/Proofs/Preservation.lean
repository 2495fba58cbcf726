import PortableSql.Proofs.PhraseNode

/-! What Spanner's forms keep of a statement.

A phrase has exactly the parameters and tables that it mentions (`Spanner.Phrase.mem_mentions`), and these are
those of the nodes that Spanner visits. What it does not visit has none, as far as it is rendered at all: an
escape is a literal, and a query whose rows are tested has no paging. Only the order of such a query is lost, and
a conflict clause (`Node.mem_mentionsIn_spanner`).
-/

set_option autoImplicit false

namespace PortableSql

namespace Spanner

/-- A phrase that does not fail has the parameters and tables that it mentions. -/
theorem Phrase.mem_mentions {config : Config} {Name : String → Prop} {before after : Joint} {fragment : Fragment}
    {mentions : List Mark} (phrase : Phrase config Name before fragment mentions after)
    (whole : fragment.failure = none) (mark : Mark) :
    mark ∈ fragment.marks.filter Mark.isMention ↔ mark ∈ mentions := by
  induction phrase with
  | nil | words | name | names | literal | bucket | placeholder | table | lock | offer => exact .rfl
  | value value => cases value <;> exact .rfl
  | fail => contradiction
  | append left right ihl ihr =>
    obtain ⟨first, second⟩ := Fragment.failure_append_eq_none.mp whole
    rw [Fragment.marks_append, first]
    simp only [Option.isSome_none, Bool.false_eq_true, if_false, List.filter_append, List.mem_append, ihl first,
      ihr second]
  | inClause clause phrase ih =>
    rw [← ih whole]
    exact iff_of_eq (congrArg (mark ∈ ·) (Mark.filter_within (fun _ _ _ => rfl) clause _))
  | loosen phrase ih | tighten phrase ih => exact ih whole
  | congr phrase same ih => exact (ih whole).trans (same mark)

end Spanner

namespace Node

/-- Whether no query that is compared with a row value has an order. -/
def RowsUnordered (node : Node) : Prop :=
  ∀ row op quantifier nested, node.Within (.predicate (.comparison (.tuple row) op (.subquery quantifier nested))) →
    nested.orderBy = []

/-- Whether an insertion has no conflict clause. -/
def Conflictless (node : Node) : Prop :=
  ∀ change, node = .statement (.insert change) → change.conflict = none

theorem mentions_literal (value : Value) : (Node.expr (.literal value)).mentions = [] := by
  rw [mentions_eq]
  rfl

theorem mentions_tuple (items : List Expr) :
    (Node.expr (.tuple items)).mentions = (items.map Node.expr).flatMap mentions := by
  rw [mentions_eq]
  rfl

theorem mentions_subquery (quantifier : Quantifier) (nested : Query) :
    (Node.expr (.subquery quantifier nested)).mentions = (Node.query nested).mentions := by
  rw [mentions_eq]
  exact List.append_nil _

theorem mentions_query (nested : Query) : (Node.query nested).mentions = nested.visits.flatMap mentions := by
  rw [mentions_eq, query_mentions]
  rfl

variable {mark : Mark}

/-- A comparison that is not refused mentions in each form what its operands do. -/
theorem mem_form_mentions {left right : Expr} {op : ComparisonOp}
    (accepted : ¬ Spanner.Refuses (.predicate (.comparison left op right)))
    (unordered : RowsUnordered (.predicate (.comparison left op right))) :
    mark ∈ (Spanner.ComparisonForm.of left op right).visits.flatMap mentions ↔
      mark ∈ (Node.expr left).mentions ∨ mark ∈ (Node.expr right).mentions := by
  have pair : mark ∈ [Node.expr left, Node.expr right].flatMap mentions ↔
      mark ∈ (Node.expr left).mentions ∨ mark ∈ (Node.expr right).mentions := by simp
  refine Spanner.ComparisonForm.of_cases left op right
    (motive := fun form => mark ∈ form.visits.flatMap mentions ↔
      mark ∈ (Node.expr left).mentions ∨ mark ∈ (Node.expr right).mentions) pair ?membership ?existence ?rows pair
  case membership =>
    rintro quantifier nested rfl
    rw [mentions_subquery]
    simp [Spanner.ComparisonForm.visits]
  case existence =>
    rintro row quantifier nested rfl rfl comparable apart
    have sorted : nested.orderBy = [] := unordered row op quantifier nested .refl
    have paging : nested.fetch = none ∧ nested.offset = none := by
      by_contra limited
      refine accepted (.subquery row op quantifier nested comparable apart ?_)
      tauto
    rw [mentions_tuple, mentions_subquery, mentions_query]
    simp only [Spanner.ComparisonForm.visits, Query.visits, sorted, paging.1, paging.2, List.flatMap_append,
      List.mem_append, List.map_nil, Option.toList_none, List.flatMap_nil, List.not_mem_nil, or_false]
    grind
  case rows =>
    rintro row others rfl rfl _
    rw [mentions_tuple, mentions_tuple]
    simp only [Spanner.ComparisonForm.visits, List.flatMap_append, List.mem_append]

theorem statement_notMem_children {node : Node} {change : Statement} : .statement change ∉ node.children := by
  cases node with
  | statement outer =>
    cases outer with
    | select => simp [children]
    | insert nested =>
      obtain ⟨target, columns, source, conflict, returned⟩ := nested
      cases source <;> cases conflict <;>
        simp [children, Insert.nodes, InsertSource.nodes, Conflict.nodes, ConflictAction.nodes]
      all_goals split <;> simp
    | update => simp [children, Update.nodes]
    | delete => simp [children, Delete.nodes]
  | query => simp [children, Query.nodes]
  | group => simp [children, TableGroup.nodes, Join.nodes]
  | table from_ =>
    cases from_ with
    | named => simp [children, TableRef.nodes]
    | derived from_ =>
      obtain ⟨source, aliasName, columns, lateral⟩ := from_
      cases source <;> simp [children, TableRef.nodes, FunctionCall.nodes]
  | predicate p => cases p <;> simp [children, Predicate.nodes, Like.nodes]
  | expr e => cases e <;> simp [children, Expr.nodes, FunctionCall.nodes]
  | item => simp [children]

/-- A statement stands in no other node. -/
theorem not_below_statement {node : Node} {change : Statement} : ¬ node.Below (.statement change) := by
  intro below
  cases below with
  | single mem | tail _ mem => exact statement_notMem_children mem

/-- What Spanner does not visit has neither parameters nor tables, if it refuses nothing. -/
theorem mem_visits_mentions {node : Node} (accepted : ¬ Spanner.Refuses node) (unordered : node.RowsUnordered)
    (conflictless : node.Conflictless) :
    mark ∈ (node.visits .spanner).flatMap mentions ↔ mark ∈ (node.visits .generic).flatMap mentions := by
  cases node with
  | statement change =>
    cases change with
    | select | update | delete => exact .rfl
    | insert change =>
      have none := conflictless change rfl
      simp [visits, Statement.visits, none]
  | query | group | table | expr | item => exact .rfl
  | predicate p =>
    cases p with
    | comparison left op right =>
      refine (mem_form_mentions accepted unordered).trans ?_
      simp [visits, Predicate.visits]
    | inList test values negated => cases values <;> exact .rfl
    | like node =>
      have silent : (node.escape.toList.map Node.expr).flatMap mentions = [] := by
        cases escape : node.escape with
        | none => rfl
        | some e =>
          have literal : ∃ text, e.string? = some text := by
            by_contra other
            exact accepted (.escape node e escape fun c same => other ⟨_, same⟩)
          obtain ⟨text, same⟩ := literal
          cases e with
          | literal value => simp [mentions_literal]
          | star | column | parameter | arithmetic | function | window | tuple | subquery | summarization =>
            contradiction
      simp only [visits, Predicate.visits, Like.nodes, List.flatMap_cons, silent, List.flatMap_nil]
    | inSubquery | inArray | nullness | between | existence | junction | negation => exact .rfl

/-- The nodes that Spanner visits mention all that the node and those below it do. -/
theorem mem_mentionsIn_spanner {node : Node}
    (accepted : ∀ inner, Dialect.spanner.Visits node inner → ¬ Spanner.Refuses inner)
    (unordered : node.RowsUnordered) (conflictless : node.Conflictless) :
    mark ∈ node.mentionsIn .spanner ↔ mark ∈ node.mentions := by
  induction node using Node.induction with
  | step node ih =>
    have below (inner : Node) (mem : inner ∈ node.visits .spanner) :
        mark ∈ inner.mentionsIn .spanner ↔ mark ∈ inner.mentions := by
      have under : node.Below inner := below_of_mem_visits mem
      refine ih inner under (fun deeper visited => accepted deeper (.head mem visited))
        (fun row op quantifier nested within => unordered row op quantifier nested
          (under.to_reflTransGen.trans within)) ?_
      rintro change rfl
      exact absurd under not_below_statement
    have visited : mark ∈ (node.visits .spanner).flatMap (mentionsIn .spanner) ↔
        mark ∈ (node.visits .spanner).flatMap mentions := by
      simp only [List.mem_flatMap]
      exact exists_congr fun inner => and_congr_right (below inner)
    rw [mentionsIn_eq, mentions_eq, ← visits_mentions, List.mem_append, List.mem_append, visited,
      mem_visits_mentions (accepted node .refl) unordered conflictless]

end Node

/-- A statement that Spanner renders has the same parameters and the same tables there as in the standard
rendering, if it has no conflict clause and no query that is compared with a row value has an order. -/
theorem Statement.render_preserves (statement : Statement) (config : Config)
    (conflictless : (Node.statement statement).Conflictless) (unordered : (Node.statement statement).RowsUnordered)
    {rendering : Rendering} (rendered : statement.render ⟨.spanner, config⟩ = .ok rendering) :
    ∃ standard, statement.render ⟨.generic, config⟩ = .ok standard ∧
      (∀ name sqlType,
        (name, sqlType) ∈ rendering.bindings.map (fun binding => (binding.name, binding.sqlType)) ↔
          (name, sqlType) ∈ standard.bindings.map (fun binding => (binding.name, binding.sqlType))) ∧
      rendering.tables = standard.tables := by
  obtain ⟨whole, mentioned⟩ := statement.standard_mentions config
  have accepted (inner : Node) (visited : Dialect.spanner.Visits (.statement statement) inner) :
      ¬ Spanner.Refuses inner := by
    intro refused
    obtain ⟨cause, failed⟩ := (statement.render_fails_iff config).2.mpr ⟨inner, visited, refused⟩
    rw [rendered] at failed
    contradiction
  have phrased : (Node.statement statement).Phrased config fun _ => True :=
    Render.node_phrased _ (fun _ _ => trivial) fun _ _ _ _ => trivial
  have marks : (Render.statement ⟨.spanner, config⟩ statement).failure = none ∧
      rendering = .ofMarks config (Render.statement ⟨.spanner, config⟩ statement).marks := by
    rw [render, Fragment.rendering] at rendered
    split at rendered
    · contradiction
    · next written => exact ⟨written, (Except.ok.inj rendered).symm⟩
  obtain ⟨written, rfl⟩ := marks
  have same (mark : Mark) (mention : mark.isMention = true) :
      mark ∈ (Render.statement ⟨.spanner, config⟩ statement).marks ↔
        mark ∈ (Render.statement ⟨.generic, config⟩ statement).marks :=
    calc mark ∈ (Render.statement ⟨.spanner, config⟩ statement).marks
        ↔ mark ∈ (Render.statement ⟨.spanner, config⟩ statement).marks.filter Mark.isMention := by
          simp [List.mem_filter, mention]
      _ ↔ mark ∈ (Node.statement statement).mentionsIn .spanner := phrased.alone.mem_mentions written mark
      _ ↔ mark ∈ (Node.statement statement).mentions :=
          Node.mem_mentionsIn_spanner accepted unordered conflictless
      _ ↔ mark ∈ (Render.statement ⟨.generic, config⟩ statement).marks := by
          simp [← mentioned, List.mem_filter, mention]
  refine ⟨.ofMarks config (Render.statement ⟨.generic, config⟩ statement).marks, ?_, fun name sqlType => ?_, ?_⟩
  · rw [render, Fragment.rendering, whole]
  · exact Mark.mem_bindings.trans ((same _ rfl).trans Mark.mem_bindings.symm)
  · refine NameSet.ext_names fun name => ?_
    exact (Mark.mem_tables.trans Mark.mem_filterMap_table?).trans
      ((same _ rfl).trans (Mark.mem_tables.trans Mark.mem_filterMap_table?).symm)

/-- `delete from t where (?,a)<(select b,c from u)` -/
def Statement.deleteBelow : Statement :=
  .delete {
    target := { table := "t" }
    restriction := some (.comparison (.tuple [.parameter { name := some "p" }, .column { name := "a" }]) .lt
      (.subquery .one ⟨false, [⟨.column { name := "b" }, none⟩, ⟨.column { name := "c" }, none⟩],
        [⟨.named { table := "u" }, []⟩], none, [], none, [], none, none, none⟩)) }

/-- In Spanner the parameter is written twice. -/
theorem Statement.render_preserves_deleteBelow :
    (Node.statement deleteBelow).Conflictless ∧ (Node.statement deleteBelow).RowsUnordered ∧
      ∃ rendering, deleteBelow.render ⟨.spanner, .spanner⟩ = .ok rendering ∧ rendering.bindings.length = 2 ∧
        ∃ standard, deleteBelow.render ⟨.generic, .spanner⟩ = .ok standard ∧ standard.bindings.length = 1 ∧
          (∀ name sqlType,
            (name, sqlType) ∈ rendering.bindings.map (fun binding => (binding.name, binding.sqlType)) ↔
              (name, sqlType) ∈ standard.bindings.map (fun binding => (binding.name, binding.sqlType))) ∧
          rendering.tables = standard.tables := by
  have conflictless : (Node.statement deleteBelow).Conflictless := nofun
  have unordered : (Node.statement deleteBelow).RowsUnordered := by
    have each : (Node.statement deleteBelow).Everywhere fun inner => ∀ row op quantifier nested,
        inner = .predicate (.comparison (.tuple row) op (.subquery quantifier nested)) → nested.orderBy = [] := by
      simp [deleteBelow, Node.everywhere_iff, Node.children, Delete.nodes, Predicate.nodes, Expr.nodes, Query.nodes,
        TableGroup.nodes, TableRef.nodes]
      rintro row op quantifier nested rfl rfl rfl rfl
      rfl
    exact fun row op quantifier nested within => each _ within row op quantifier nested rfl
  refine ⟨conflictless, unordered, _, rfl, rfl, ?_⟩
  obtain ⟨standard, rendered, same, tables⟩ := deleteBelow.render_preserves .spanner conflictless unordered rfl
  refine ⟨standard, rendered, ?_, same, tables⟩
  cases rendered
  rfl

end PortableSql
