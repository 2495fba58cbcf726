import PortableSql.Proofs.Junction
import PortableSql.Proofs.MarkView
import PortableSql.Proofs.Notes

/-! The parameters and tables of a statement, counted on its nodes.

All nodes of a statement are listed in the order of their clauses, each before the ones below it
(`Node.inOrder`), whatever a dialect comes to. The parameters and the tables among them are those of the
standard rendering, and the parameters have the same order there (`Statement.render_accounts`): what is not
visited has none, except for the nodes that the list leaves out.
-/

set_option autoImplicit false

namespace PortableSql

/-- The nodes of a conflict clause; its predicate has no use if nothing is done. -/
def Conflict.counted (conflict : Conflict) : List Node :=
  match conflict.action with
  | .doNothing => []
  | .doUpdate assignments => assignments.map (.expr ·.value) ++ conflict.predicate.toList.map .predicate

namespace Node

/-- The nodes right below a node, in the order of their clauses. The test of a membership in an empty list is
left out, and the predicate of a conflict clause that does nothing. -/
def counted : Node → List Node
  | .predicate (.inList _ [] _) => []
  | .statement (.insert change) => change.source.nodes ++ change.conflict.toList.flatMap Conflict.counted
  | node => node.children

theorem mem_children_of_counted {node inner : Node} (mem : inner ∈ node.counted) : inner ∈ node.children := by
  have clause (conflict : Conflict) (mem : inner ∈ conflict.counted) : inner ∈ conflict.nodes := by
    obtain ⟨action, name, columns, predicate⟩ := conflict
    cases action with
    | doNothing => exact absurd mem List.not_mem_nil
    | doUpdate => exact mem
  unfold counted at mem
  split at mem
  · exact absurd mem List.not_mem_nil
  · refine List.mem_append.mpr ((List.mem_append.mp mem).imp_right fun inside => ?_)
    obtain ⟨conflict, present, mem⟩ := List.mem_flatMap.mp inside
    exact List.mem_flatMap.mpr ⟨conflict, present, clause conflict mem⟩
  · exact mem

/-- A node and the nodes below it, each before those below it. -/
def inOrder (node : Node) : List Node :=
  node :: node.counted.attach.flatMap fun inner => inOrder inner.1
termination_by node.size
decreasing_by exact size_lt_of_mem_children (mem_children_of_counted inner.2)

theorem inOrder_eq (node : Node) : node.inOrder = node :: node.counted.flatMap inOrder := by
  rw [inOrder]
  simp

def parameter? : Node → Option Parameter
  | .expr (.parameter parameter) => some parameter
  | _ => none

/-- The table of a change, or the one that a from item names. -/
def table? : Node → Option String
  | .statement (.insert change) => some change.target.table
  | .statement (.update change) => some change.target.table
  | .statement (.delete change) => some change.target.table
  | .table (.named from_) => some from_.table
  | _ => none

end Node

/-- The parameters of a statement, in the order of its clauses. -/
def Statement.parameters (statement : Statement) : List Parameter :=
  (Node.statement statement).inOrder.filterMap Node.parameter?

/-- The tables that a statement changes or reads from. -/
def Statement.tables (statement : Statement) : List String :=
  (Node.statement statement).inOrder.filterMap Node.table?

/-- Whether a mark is a parameter or a table. -/
def Mark.isMention : Mark → Bool
  | .placeholder _ | .table _ => true
  | _ => false

namespace Node

/-- The parameters and tables of a node and of the nodes below it. -/
def mentions (node : Node) : List Mark :=
  node.inOrder.flatMap leading

theorem mentions_eq (node : Node) : node.mentions = node.leading ++ node.counted.flatMap mentions := by
  rw [mentions, inOrder_eq, List.flatMap_cons, List.flatMap_assoc]
  rfl

/-- What a node notes first is its parameter or its table. -/
theorem leading_eq (node : Node) :
    node.leading = (node.parameter?.map Mark.placeholder).toList ++ (node.table?.map Mark.table).toList := by
  cases node with
  | statement change => cases change <;> rfl
  | table from_ => cases from_ <;> rfl
  | expr e => cases e <;> rfl
  | query | group | predicate | item => rfl

theorem leading_parameter? (node : Node) : node.leading.filterMap Mark.parameter? = node.parameter?.toList := by
  rw [leading_eq]
  cases node.parameter? <;> cases node.table? <;> rfl

theorem leading_table? (node : Node) : node.leading.filterMap Mark.table? = node.table?.toList := by
  rw [leading_eq]
  cases node.parameter? <;> cases node.table? <;> rfl

theorem mentions_filterMap {α : Type} {view : Mark → Option α} {ofNode : Node → Option α}
    (same : ∀ node : Node, node.leading.filterMap view = (ofNode node).toList) (node : Node) :
    node.mentions.filterMap view = node.inOrder.filterMap ofNode := by
  rw [mentions, List.filterMap_flatMap, List.filterMap_eq_flatMap_toList ofNode]
  exact List.flatMap_congr fun inner _ => same inner

/-- A predicate without atoms has neither parameters nor tables. -/
theorem mentions_of_isEmpty {p : Predicate} (empty : p.isEmpty = true) : (Node.predicate p).mentions = [] := by
  induction p using Predicate.induction with
  | atom p atom =>
    cases p with
    | junction | negation => contradiction
    | comparison | inList | inSubquery | inArray | like | nullness | between | existence => contradiction
  | junction kind parts ih =>
    rw [Predicate.isEmpty, Predicate.allEmpty_eq_all, List.all_eq_true] at empty
    rw [mentions_eq]
    refine List.flatMap_eq_nil_iff.mpr fun inner mem => ?_
    obtain ⟨part, inside, rfl⟩ := List.mem_map.mp mem
    exact ih part inside (empty part inside)
  | negation inner ih =>
    rw [mentions_eq]
    exact (List.append_nil _).trans (ih empty)

theorem visited_mentions (restriction : Option Predicate) :
    (Predicate.visited restriction).flatMap mentions = (restriction.toList.map Node.predicate).flatMap mentions := by
  cases restriction with
  | none => rfl
  | some p =>
    cases empty : p.isEmpty with
    | false => simp [Predicate.visited, Predicate.effective?, empty]
    | true => simp [Predicate.visited, Predicate.effective?, empty, mentions_of_isEmpty empty]

theorem query_mentions (nested : Query) : nested.visits.flatMap mentions = nested.nodes.flatMap mentions := by
  simp only [Query.visits, Query.core, Query.nodes, List.flatMap_append, visited_mentions, List.append_assoc]

theorem group_mentions (from_ : TableGroup) : from_.visits.flatMap mentions = from_.nodes.flatMap mentions := by
  have join (j : Join) : j.visits.flatMap mentions = j.nodes.flatMap mentions := by
    simp only [Join.visits, Join.nodes, List.flatMap_cons, visited_mentions]
  simp only [TableGroup.visits, TableGroup.nodes, List.flatMap_cons, List.flatMap_assoc, join]

theorem junction_mentions (parts : List Predicate) :
    ((parts.filter (!·.isEmpty)).map Node.predicate).flatMap mentions =
      (parts.map Node.predicate).flatMap mentions := by
  induction parts with
  | nil => rfl
  | cons p parts ih =>
    cases empty : p.isEmpty with
    | false => simp_all
    | true => simp_all [mentions_of_isEmpty empty]

theorem statement_mentions (change : Statement) :
    (change.visits .generic).flatMap mentions = (Node.statement change).counted.flatMap mentions := by
  cases change with
  | select nested => rfl
  | insert change =>
    have clause (conflict : Conflict) : conflict.visits.flatMap mentions = conflict.counted.flatMap mentions := by
      obtain ⟨action, name, columns, predicate⟩ := conflict
      cases action with
      | doNothing => rfl
      | doUpdate => simp only [Conflict.visits, Conflict.counted, List.flatMap_append, visited_mentions]
    simp only [Statement.visits, counted, List.flatMap_append, List.flatMap_assoc, clause]
  | update change =>
    simp only [Statement.visits, counted, children, Update.nodes, List.flatMap_append, visited_mentions]
  | delete change => exact visited_mentions change.restriction

/-- What the generic dialect does not visit has neither parameters nor tables, the nodes that are not counted
apart. -/
theorem visits_mentions (node : Node) : (node.visits .generic).flatMap mentions = node.counted.flatMap mentions := by
  cases node with
  | statement change => exact statement_mentions change
  | query nested => exact query_mentions nested
  | group from_ => exact group_mentions from_
  | predicate p =>
    cases p with
    | inList test values => cases values <;> rfl
    | junction kind parts => exact junction_mentions parts
    | comparison | inSubquery | inArray | like | nullness | between | existence | negation => rfl
  | table | expr | item => rfl

theorem notes_mentions (config : Config) (node : Node) : (node.notes config).filter Mark.isMention = node.mentions := by
  induction node using Node.induction with
  | step node ih =>
    have own : node.leading.filter Mark.isMention = node.leading := by
      rw [leading_eq]
      cases node.parameter? <;> cases node.table? <;> rfl
    have locks : (node.trailing config).filter Mark.isMention = [] := by
      cases node with
      | query nested => cases lock : nested.lock <;> simp [trailing, lock, Mark.isMention]
      | statement | group | table | predicate | expr | item => rfl
    have below : ((node.visits .generic).flatMap (notes config)).filter Mark.isMention =
        (node.visits .generic).flatMap mentions := by
      rw [List.filter_flatMap]
      exact List.flatMap_congr fun inner mem => ih inner (below_of_mem_visits mem)
    rw [notes_eq, List.filter_append, List.filter_append, own, locks, below, visits_mentions, List.append_nil,
      mentions_eq]

end Node

/-- The standard rendering does not fail, and its parameters and tables are those of the statement. -/
theorem Statement.standard_mentions (statement : Statement) (config : Config) :
    (Render.statement ⟨.generic, config⟩ statement).failure = none ∧
      (Render.statement ⟨.generic, config⟩ statement).marks.filter Mark.isMention =
        (Node.statement statement).mentions := by
  have noted : (Render.statement ⟨.generic, config⟩ statement).Notes ((Node.statement statement).notes config) :=
    Render.node_noted config (.statement statement)
  have noteworthy (mark : Mark) : (mark.isMention && mark.isNote) = mark.isMention := by cases mark <;> rfl
  refine ⟨noted.whole, ?_⟩
  rw [← Node.notes_mentions config, ← noted.notes, List.filter_filter]
  exact (List.filter_congr fun mark _ => noteworthy mark).symm

/-- The bindings of the standard rendering are the parameters of the statement, in their order, and its tables
are those of the statement. -/
theorem Statement.render_accounts (statement : Statement) (config : Config) :
    ∃ rendering, statement.render ⟨.generic, config⟩ = .ok rendering ∧
      rendering.bindings = Binding.numbered 0 statement.parameters ∧
      ∀ name, name ∈ rendering.tables.names ↔ name ∈ statement.tables := by
  obtain ⟨whole, mentioned⟩ := statement.standard_mentions config
  have rendered : statement.render ⟨.generic, config⟩ =
      .ok (.ofMarks config (Render.statement ⟨.generic, config⟩ statement).marks) := by
    rw [render, Fragment.rendering, whole]
  -- A view that sees only parameters, or only tables, passes over all other marks.
  have seen {α : Type} {view : Mark → Option α} {ofNode : Node → Option α}
      (blind : ∀ mark : Mark, mark.isMention = false → view mark = none)
      (same : ∀ node : Node, node.leading.filterMap view = (ofNode node).toList) :
      (Render.statement ⟨.generic, config⟩ statement).marks.filterMap view =
        (Node.statement statement).inOrder.filterMap ofNode := by
    rw [← Mark.filterMap_filter blind, mentioned, Node.mentions_filterMap same]
  refine ⟨_, rendered, ?_, fun name => ?_⟩
  · have parameters := seen (fun mark out => by cases mark <;> first | rfl | contradiction) Node.leading_parameter?
    exact congrArg (Binding.numbered 0) parameters
  · have tables := seen (fun mark out => by cases mark <;> first | rfl | contradiction) Node.leading_table?
    exact Mark.mem_tables.trans (iff_of_eq (congrArg (name ∈ ·) tables))

end PortableSql
