import PortableSql.Proofs.ComparisonForm

/-! Which nodes a dialect visits when it writes a statement.

Not every node of a statement is written: predicates that restrict nothing are not, nor the test of a
membership in an empty list. A dialect that writes a construct in a way of its own may leave out more,
as Spanner does with a conflict clause, an escape, and the order and paging of a query whose rows are
only tested. What is visited is always below (`Node.below_of_mem_visits`).
-/

set_option autoImplicit false

namespace PortableSql

/-- A predicate that restricts nothing is not visited. -/
def Predicate.visited (restriction : Option Predicate) : List Node :=
  (Predicate.effective? restriction).toList.map .predicate

-- What an existence test for a row of a query takes over from the query.
def Query.core (query : Query) : List Node :=
  query.sources.map .group ++ Predicate.visited query.restriction ++ query.groupBy.map .item
    ++ Predicate.visited query.having

def Query.visits (query : Query) : List Node :=
  query.selections.map (.expr ·.expr) ++ query.core ++ query.orderBy.map (.expr ·.expr)
    ++ query.offset.toList.map .expr ++ query.fetch.toList.map .expr

def Join.visits (join : Join) : List Node :=
  .table join.table :: Predicate.visited join.on

def TableGroup.visits (group : TableGroup) : List Node :=
  .table group.primary :: group.joins.flatMap Join.visits

def Spanner.ComparisonForm.visits : ComparisonForm → List Node
  | .membership left nested _ => [.expr left, .query nested]
  | .intersection left right _ => [.expr left, .expr right]
  | .rows left right _ => left.map .expr ++ right.map .expr
  | .existence row nested _ _ =>
    nested.core ++ nested.selections.map (.expr ·.expr) ++ row.map .expr
  | .native left _ right => [.expr left, .expr right]

def Predicate.visits : Dialect → Predicate → List Node
  | .generic, .comparison left _ right => [.expr left, .expr right]
  | .spanner, .comparison left op right => (Spanner.ComparisonForm.of left op right).visits
  | _, .inList _ [] _ => []
  | .generic, .like node => node.nodes
  -- The escape is turned into the one that needs no clause.
  | .spanner, .like node => [.expr node.expr, .expr node.pattern]
  | _, .junction _ parts => (parts.filter (!·.isEmpty)).map .predicate
  | _, p => p.nodes

def Conflict.visits (conflict : Conflict) : List Node :=
  match conflict.action with
  | .doNothing => []
  | .doUpdate assignments => assignments.map (.expr ·.value) ++ Predicate.visited conflict.predicate

def Statement.visits : Dialect → Statement → List Node
  | _, .select nested => [.query nested]
  | .generic, .insert change => change.source.nodes ++ change.conflict.toList.flatMap Conflict.visits
  | .spanner, .insert change => change.source.nodes
  | _, .update change => change.assignments.map (.expr ·.value) ++ Predicate.visited change.restriction
  | _, .delete change => Predicate.visited change.restriction

/-- The nodes that writing a node visits next. -/
def Node.visits (dialect : Dialect) : Node → List Node
  | .statement node => node.visits dialect
  | .query node => node.visits
  | .group node => node.visits
  | .table node => node.nodes
  | .predicate node => node.visits dialect
  | .expr node => node.nodes
  | .item node => [.expr node]

/-- Whether a dialect comes to a node when it writes another, which may be itself. -/
def Dialect.Visits (dialect : Dialect) (outer inner : Node) : Prop :=
  Relation.ReflTransGen (fun node child => child ∈ node.visits dialect) outer inner

namespace Node

variable {node inner : Node} {dialect : Dialect}

theorem mem_of_visited {restriction : Option Predicate} (mem : inner ∈ Predicate.visited restriction) :
    inner ∈ restriction.toList.map .predicate := by
  cases restriction with
  | none => exact mem
  | some p =>
    cases empty : p.isEmpty <;> simp_all [Predicate.visited, Predicate.effective?]

theorem mem_of_core {query : Query} (mem : inner ∈ query.core) : inner ∈ query.nodes := by
  simp only [Query.core, Query.nodes, List.mem_append] at mem ⊢
  have restriction : inner ∈ Predicate.visited query.restriction →
      inner ∈ query.restriction.toList.map .predicate :=
    mem_of_visited
  have having : inner ∈ Predicate.visited query.having → inner ∈ query.having.toList.map .predicate :=
    mem_of_visited
  grind

theorem mem_of_query {query : Query} (mem : inner ∈ query.visits) : inner ∈ query.nodes := by
  have core : inner ∈ query.core → inner ∈ query.nodes := mem_of_core
  simp only [Query.visits, Query.nodes, List.mem_append] at mem core ⊢
  grind

theorem mem_of_group {from_ : TableGroup} (mem : inner ∈ from_.visits) : inner ∈ from_.nodes := by
  have joined (join : Join) (visited : inner ∈ join.visits) : inner ∈ join.nodes := by
    simp only [Join.visits, Join.nodes, List.mem_cons] at visited ⊢
    exact visited.imp_right mem_of_visited
  simp only [TableGroup.visits, TableGroup.nodes, List.mem_cons, List.mem_flatMap] at mem ⊢
  exact mem.imp_right fun ⟨join, member, visited⟩ => ⟨join, member, joined join visited⟩

theorem mem_of_conflict {conflict : Conflict} (mem : inner ∈ conflict.visits) :
    inner ∈ conflict.nodes := by
  obtain ⟨action, name, names, predicate⟩ := conflict
  cases action with
  | doNothing => exact absurd mem List.not_mem_nil
  | doUpdate items =>
    exact List.mem_append.mpr ((List.mem_append.mp mem).imp_right mem_of_visited)

theorem mem_of_statement {change : Statement} (mem : inner ∈ change.visits dialect) :
    inner ∈ (Node.statement change).children := by
  cases change with
  | select nested => cases dialect <;> exact mem
  | insert nested =>
    cases dialect with
    | generic =>
      refine List.mem_append.mpr ((List.mem_append.mp mem).imp_right fun visited => ?_)
      obtain ⟨clause, present, visited⟩ := List.mem_flatMap.mp visited
      exact List.mem_flatMap.mpr ⟨clause, present, mem_of_conflict visited⟩
    | spanner => exact List.mem_append_left _ mem
  | update nested =>
    cases dialect <;> exact List.mem_append.mpr ((List.mem_append.mp mem).imp_right mem_of_visited)
  | delete nested => cases dialect <;> exact mem_of_visited mem

theorem below_of_comparison {left : Expr} {op : ComparisonOp} {right : Expr}
    (mem : inner ∈ (Spanner.ComparisonForm.of left op right).visits) :
    (Node.predicate (.comparison left op right)).Below inner := by
  have onLeft : (Node.predicate (.comparison left op right)).Below (.expr left) :=
    below_of_mem List.mem_cons_self
  have onRight : (Node.predicate (.comparison left op right)).Below (.expr right) :=
    below_of_mem (List.mem_cons_of_mem _ List.mem_cons_self)
  have native : inner ∈ [Node.expr left, Node.expr right] →
      (Node.predicate (.comparison left op right)).Below inner := fun pair => below_of_mem pair
  revert mem
  refine Spanner.ComparisonForm.of_cases left op right
    (motive := fun form => inner ∈ form.visits → (Node.predicate (.comparison left op right)).Below inner)
    native ?membership ?existence ?rows native
  case membership =>
    rintro quantifier nested rfl mem
    rcases List.mem_cons.mp mem with rfl | mem
    · exact onLeft
    · exact onRight.tail mem
  case existence =>
    rintro row quantifier nested rfl rfl _ _ mem
    rcases List.mem_append.mp mem with mem | mem
    · refine (onRight.tail (List.mem_cons_self (a := Node.query nested))).tail (mem_of_query ?_)
      simp only [Query.visits, List.mem_append] at mem ⊢
      grind
    · exact onLeft.tail mem
  case rows =>
    rintro row others rfl rfl _ mem
    rcases List.mem_append.mp mem with mem | mem
    · exact onLeft.tail mem
    · exact onRight.tail mem

/-- What is visited is below. -/
theorem below_of_mem_visits (mem : inner ∈ node.visits dialect) : node.Below inner := by
  cases node with
  | statement change => exact below_of_mem (mem_of_statement mem)
  | query nested => exact below_of_mem (mem_of_query mem)
  | group from_ => exact below_of_mem (mem_of_group mem)
  | table from_ => exact below_of_mem mem
  | expr e => exact below_of_mem mem
  | item e => exact below_of_mem mem
  | predicate p =>
    cases p with
    | comparison left op right =>
      cases dialect with
      | generic => exact below_of_mem mem
      | spanner => exact below_of_comparison mem
    | inList test values negated =>
      cases values with
      | nil => cases dialect <;> exact absurd mem List.not_mem_nil
      | cons value values => cases dialect <;> exact below_of_mem mem
    | like node =>
      cases dialect with
      | generic => exact below_of_mem mem
      | spanner =>
        refine below_of_mem ?_
        simp only [visits, Predicate.visits, children, Predicate.nodes, Like.nodes, List.mem_cons,
          List.not_mem_nil, or_false] at mem ⊢
        exact mem.imp_right .inl
    | junction kind parts =>
      have part : inner ∈ (parts.filter (!·.isEmpty)).map Node.predicate := by cases dialect <;> exact mem
      obtain ⟨p, member, rfl⟩ := List.mem_map.mp part
      exact below_of_mem (List.mem_map_of_mem (List.mem_filter.mp member).1)
    | inSubquery | inArray | nullness | between | existence | negation =>
      cases dialect <;> exact below_of_mem mem

theorem within_of_visits (visited : dialect.Visits node inner) : node.Within inner := by
  induction visited with
  | refl => exact .refl
  | tail _ mem ih => exact ih.trans (below_of_mem_visits mem).to_reflTransGen

end Node

end PortableSql
