import Mathlib.Data.List.Basic
import Mathlib.Logic.Relation
import PortableSql.Syntax.Statement

/-! Nodes of a statement.

A node is a part of a statement together with the way it stands there: an item of a grouping is not
the expression that it holds. What holds of a node if it holds of all smaller ones holds of every node
(`Node.induction`); that is the induction over all of the syntax.
-/

set_option autoImplicit false

namespace PortableSql

inductive Node where
  | statement (statement : Statement)
  | query (query : Query)
  -- An item of a from list.
  | group (group : TableGroup)
  | table (table : TableRef)
  | predicate (predicate : Predicate)
  | expr (expr : Expr)
  -- An item of a grouping or of a partition.
  | item (expr : Expr)

def FunctionCall.nodes (call : FunctionCall) : List Node :=
  call.args.map .expr

def Query.nodes (query : Query) : List Node :=
  query.selections.map (.expr ·.expr) ++ query.sources.map .group
    ++ query.restriction.toList.map .predicate ++ query.groupBy.map .item
    ++ query.having.toList.map .predicate ++ query.orderBy.map (.expr ·.expr)
    ++ query.offset.toList.map .expr ++ query.fetch.toList.map .expr

theorem Query.forall_nodes {P : Node → Prop} {query : Query} :
    (∀ node ∈ query.nodes, P node) ↔
      (∀ selection ∈ query.selections, P (.expr selection.expr)) ∧
      (∀ group ∈ query.sources, P (.group group)) ∧
      (∀ p ∈ query.restriction, P (.predicate p)) ∧
      (∀ item ∈ query.groupBy, P (.item item)) ∧
      (∀ p ∈ query.having, P (.predicate p)) ∧
      (∀ item ∈ query.orderBy, P (.expr item.expr)) ∧
      (∀ e ∈ query.offset, P (.expr e)) ∧
      ∀ e ∈ query.fetch, P (.expr e) := by
  simp [nodes, or_imp, forall_and]

def Join.nodes (join : Join) : List Node :=
  .table join.table :: join.on.toList.map .predicate

def TableGroup.nodes (group : TableGroup) : List Node :=
  .table group.primary :: group.joins.flatMap Join.nodes

def TableRef.nodes : TableRef → List Node
  | .named _ => []
  | .derived ⟨.query query, _, _, _⟩ => [.query query]
  | .derived ⟨.function call, _, _, _⟩ => call.nodes

def Like.nodes (like : Like) : List Node :=
  .expr like.expr :: .expr like.pattern :: like.escape.toList.map .expr

def Predicate.nodes : Predicate → List Node
  | .comparison left _ right => [.expr left, .expr right]
  | .inList test values _ => .expr test :: values.map .expr
  | .inSubquery test nested _ => [.expr test, .query nested]
  | .inArray test array => [.expr test, .expr array]
  | .like node => node.nodes
  | .nullness expr _ => [.expr expr]
  | .between expr low high _ => [.expr expr, .expr low, .expr high]
  | .existence nested _ => [.query nested]
  | .junction _ parts => parts.map .predicate
  | .negation inner => [.predicate inner]

def Expr.nodes : Expr → List Node
  | .star | .literal _ | .column _ | .parameter _ => []
  | .arithmetic left _ right => [.expr left, .expr right]
  | .function call => call.nodes
  | .window call partitionBy orderBy =>
    call.nodes ++ partitionBy.map .item ++ orderBy.map (.expr ·.expr)
  | .tuple items => items.map .expr
  | .subquery _ nested => [.query nested]
  | .summarization _ groupings => groupings.map .expr

def InsertSource.nodes : InsertSource → List Node
  | .values rows => rows.flatMap fun row => row.map .expr
  | .query nested => [.query nested]

def ConflictAction.nodes : ConflictAction → List Node
  | .doNothing => []
  | .doUpdate assignments => assignments.map (.expr ·.value)

def Conflict.nodes (conflict : Conflict) : List Node :=
  conflict.action.nodes ++ conflict.predicate.toList.map .predicate

def Insert.nodes (insert : Insert) : List Node :=
  insert.source.nodes ++ insert.conflict.toList.flatMap Conflict.nodes

def Update.nodes (update : Update) : List Node :=
  update.assignments.map (.expr ·.value) ++ update.restriction.toList.map .predicate

def Delete.nodes (delete : Delete) : List Node :=
  delete.restriction.toList.map .predicate

namespace Node

/-- The nodes right below a node. -/
def children : Node → List Node
  | .statement (.select nested) => [.query nested]
  | .statement (.insert nested) => nested.nodes
  | .statement (.update nested) => nested.nodes
  | .statement (.delete nested) => nested.nodes
  | .query node => node.nodes
  | .group node => node.nodes
  | .table node => node.nodes
  | .predicate node => node.nodes
  | .expr node => node.nodes
  | .item node => [.expr node]

/-- A node that stands in another one than itself. -/
def Below (outer inner : Node) : Prop :=
  Relation.TransGen (fun node child => child ∈ node.children) outer inner

/-- A node that stands in another, which may be itself. -/
def Within (outer inner : Node) : Prop :=
  Relation.ReflTransGen (fun node child => child ∈ node.children) outer inner

/-- Whether a property holds of a node and of all nodes in it. -/
def Everywhere (P : Node → Prop) (node : Node) : Prop :=
  ∀ inner, node.Within inner → P inner

-- The children are listed, so that they can be taken one by one where the node is known.
theorem everywhere_iff {P : Node → Prop} {node : Node} :
    node.Everywhere P ↔ P node ∧ node.children.Forall (Everywhere P) := by
  rw [List.forall_iff_forall_mem]
  constructor
  · exact fun each => ⟨each node .refl, fun child mem inner within => each inner (.head mem within)⟩
  · rintro ⟨own, below⟩ inner within
    rcases within.cases_head with rfl | ⟨child, mem, within⟩
    · exact own
    · exact below child mem inner within

theorem below_of_mem {outer child : Node} (mem : child ∈ outer.children) : outer.Below child :=
  .single mem

noncomputable def size : Node → Nat
  | .statement node => sizeOf node
  | .query node => sizeOf node
  | .group node => sizeOf node
  | .table node => sizeOf node
  | .predicate node => sizeOf node
  | .expr node => sizeOf node
  | .item node => sizeOf node + 1

section

variable {α : Type} [SizeOf α] {render : α → Node} {node : Node}

theorem size_le_of_mem_map {elements : List α} (bound : ∀ a, (render a).size ≤ sizeOf a + 1)
    (mem : node ∈ elements.map render) : node.size ≤ sizeOf elements := by
  obtain ⟨a, member, rfl⟩ := List.mem_map.mp mem
  have smaller := List.sizeOf_lt_of_mem member
  have := bound a
  omega

theorem size_le_of_mem_toList {optional : Option α} (bound : ∀ a, (render a).size ≤ sizeOf a + 1)
    (mem : node ∈ optional.toList.map render) : node.size ≤ sizeOf optional := by
  cases optional with
  | none => contradiction
  | some a =>
    cases List.mem_singleton.mp mem
    have := bound a
    simp only [Option.some.sizeOf_spec]
    omega

theorem size_lt_of_mem_call {call : FunctionCall} (mem : node ∈ call.nodes) :
    node.size < sizeOf call := by
  obtain ⟨name, args, returnType⟩ := call
  have : node.size ≤ sizeOf args := size_le_of_mem_map (fun _ => Nat.le_succ _) mem
  simp only [FunctionCall.mk.sizeOf_spec]
  omega

theorem size_lt_of_mem_query {nested : Query} (mem : node ∈ nested.nodes) :
    node.size < sizeOf nested := by
  obtain ⟨distinct, selections, sources, restriction, groupBy, having, orderBy, offset, fetch, lock⟩ :=
    nested
  have selection (a : Selection) : (Node.expr a.expr).size ≤ sizeOf a + 1 := by
    cases a
    simp only [size, Selection.mk.sizeOf_spec]
    omega
  have sort (a : SortItem) : (Node.expr a.expr).size ≤ sizeOf a + 1 := by
    cases a
    simp only [size, SortItem.mk.sizeOf_spec]
    omega
  have part : node.size ≤ sizeOf selections ∨ node.size ≤ sizeOf sources ∨
      node.size ≤ sizeOf restriction ∨ node.size ≤ sizeOf groupBy ∨ node.size ≤ sizeOf having ∨
      node.size ≤ sizeOf orderBy ∨ node.size ≤ sizeOf offset ∨ node.size ≤ sizeOf fetch := by
    simp only [Query.nodes, List.mem_append, or_assoc] at mem
    exact mem.imp (size_le_of_mem_map selection) <| .imp (size_le_of_mem_map fun _ => Nat.le_succ _) <|
      .imp (size_le_of_mem_toList fun _ => Nat.le_succ _) <|
      .imp (size_le_of_mem_map fun _ => Nat.le_refl _) <|
      .imp (size_le_of_mem_toList fun _ => Nat.le_succ _) <| .imp (size_le_of_mem_map sort) <|
      .imp (size_le_of_mem_toList fun _ => Nat.le_succ _) (size_le_of_mem_toList fun _ => Nat.le_succ _)
  simp only [Query.mk.sizeOf_spec]
  omega

theorem size_lt_of_mem_group {from_ : TableGroup} (mem : node ∈ from_.nodes) :
    node.size < sizeOf from_ := by
  obtain ⟨primary, joins⟩ := from_
  simp only [TableGroup.mk.sizeOf_spec]
  rcases List.mem_cons.mp mem with rfl | mem
  · simp only [size]
    omega
  · obtain ⟨⟨kind, table, on⟩, member, mem⟩ := List.mem_flatMap.mp mem
    have smaller := List.sizeOf_lt_of_mem member
    simp only [Join.mk.sizeOf_spec] at smaller
    rcases List.mem_cons.mp mem with rfl | mem
    · simp only [size]
      omega
    · have : node.size ≤ sizeOf on := size_le_of_mem_toList (fun _ => Nat.le_succ _) mem
      omega

theorem size_lt_of_mem_table {from_ : TableRef} (mem : node ∈ from_.nodes) :
    node.size < sizeOf from_ := by
  match from_, mem with
  | .derived ⟨.query nested, aliasName, names, lateral⟩, mem =>
    cases List.mem_singleton.mp mem
    simp only [size, TableRef.derived.sizeOf_spec, DerivedTable.mk.sizeOf_spec,
      DerivedSource.query.sizeOf_spec]
    omega
  | .derived ⟨.function call, aliasName, names, lateral⟩, mem =>
    have : node.size < sizeOf call := size_lt_of_mem_call mem
    simp only [TableRef.derived.sizeOf_spec, DerivedTable.mk.sizeOf_spec,
      DerivedSource.function.sizeOf_spec]
    omega

theorem size_lt_of_mem_like {like : Like} (mem : node ∈ like.nodes) : node.size < sizeOf like := by
  obtain ⟨expr, pattern, escape, caseSensitive, negated⟩ := like
  simp only [Like.nodes, List.mem_cons] at mem
  simp only [Like.mk.sizeOf_spec]
  rcases mem with rfl | rfl | mem
  · simp only [size]
    omega
  · simp only [size]
    omega
  · have : node.size ≤ sizeOf escape := size_le_of_mem_toList (fun _ => Nat.le_succ _) mem
    omega

theorem size_lt_of_mem_predicate {p : Predicate} (mem : node ∈ p.nodes) : node.size < sizeOf p := by
  cases p with
  | comparison | inSubquery | inArray | nullness | between | existence | negation =>
    simp only [Predicate.nodes, List.mem_cons, List.not_mem_nil, or_false] at mem
    rcases mem with rfl | rfl | rfl <;> simp [size] <;> omega
  | inList test values negated =>
    rcases List.mem_cons.mp mem with rfl | mem
    · simp [size]
      omega
    · have : node.size ≤ sizeOf values := size_le_of_mem_map (fun _ => Nat.le_succ _) mem
      simp only [Predicate.inList.sizeOf_spec]
      omega
  | like like =>
    have : node.size < sizeOf like := size_lt_of_mem_like mem
    simp only [Predicate.like.sizeOf_spec]
    omega
  | junction kind parts =>
    have : node.size ≤ sizeOf parts := size_le_of_mem_map (fun _ => Nat.le_succ _) mem
    simp only [Predicate.junction.sizeOf_spec]
    omega

theorem size_lt_of_mem_expr {e : Expr} (mem : node ∈ e.nodes) : node.size < sizeOf e := by
  cases e with
  | star | literal | column | parameter => contradiction
  | arithmetic left op right =>
    simp only [Expr.nodes, List.mem_cons, List.not_mem_nil, or_false] at mem
    rcases mem with rfl | rfl
    · simp only [size, Expr.arithmetic.sizeOf_spec]
      omega
    · simp only [size, Expr.arithmetic.sizeOf_spec]
      omega
  | function call =>
    have : node.size < sizeOf call := size_lt_of_mem_call mem
    simp only [Expr.function.sizeOf_spec]
    omega
  | window call partitionBy orderBy =>
    have sort (a : SortItem) : (Node.expr a.expr).size ≤ sizeOf a + 1 := by
      cases a
      simp only [size, SortItem.mk.sizeOf_spec]
      omega
    have part : node.size < sizeOf call ∨ node.size ≤ sizeOf partitionBy ∨
        node.size ≤ sizeOf orderBy := by
      simp only [Expr.nodes, List.mem_append, or_assoc] at mem
      exact mem.imp size_lt_of_mem_call <| .imp (size_le_of_mem_map fun _ => Nat.le_refl _)
        (size_le_of_mem_map sort)
    simp only [Expr.window.sizeOf_spec]
    omega
  | tuple items =>
    have : node.size ≤ sizeOf items := size_le_of_mem_map (fun _ => Nat.le_succ _) mem
    simp only [Expr.tuple.sizeOf_spec]
    omega
  | subquery quantifier nested =>
    cases List.mem_singleton.mp mem
    simp only [size, Expr.subquery.sizeOf_spec]
    omega
  | summarization kind groupings =>
    have : node.size ≤ sizeOf groupings := size_le_of_mem_map (fun _ => Nat.le_succ _) mem
    simp only [Expr.summarization.sizeOf_spec]
    omega

theorem size_le_of_mem_assignments {assignments : List Assignment}
    (mem : node ∈ assignments.map (.expr ·.value)) : node.size ≤ sizeOf assignments := by
  refine size_le_of_mem_map (fun a => ?_) mem
  cases a
  simp only [size, Assignment.mk.sizeOf_spec]
  omega

theorem size_lt_of_mem_source {source : InsertSource} (mem : node ∈ source.nodes) :
    node.size < sizeOf source := by
  cases source with
  | values rows =>
    obtain ⟨row, member, mem⟩ := List.mem_flatMap.mp mem
    have smaller := List.sizeOf_lt_of_mem member
    have : node.size ≤ sizeOf row := size_le_of_mem_map (fun _ => Nat.le_succ _) mem
    simp only [InsertSource.values.sizeOf_spec]
    omega
  | query nested =>
    cases List.mem_singleton.mp mem
    simp only [size, InsertSource.query.sizeOf_spec]
    omega

theorem size_lt_of_mem_conflict {conflict : Conflict} (mem : node ∈ conflict.nodes) :
    node.size < sizeOf conflict := by
  obtain ⟨action, name, names, predicate⟩ := conflict
  simp only [Conflict.mk.sizeOf_spec]
  rcases List.mem_append.mp mem with mem | mem
  · cases action with
    | doNothing => exact absurd mem List.not_mem_nil
    | doUpdate assignments =>
      have : node.size ≤ sizeOf assignments := size_le_of_mem_assignments mem
      simp only [ConflictAction.doUpdate.sizeOf_spec]
      omega
  · have : node.size ≤ sizeOf predicate := size_le_of_mem_toList (fun _ => Nat.le_succ _) mem
    omega

theorem size_lt_of_mem_insert {insert : Insert} (mem : node ∈ insert.nodes) :
    node.size < sizeOf insert := by
  obtain ⟨target, columns, source, conflict, returning⟩ := insert
  simp only [Insert.mk.sizeOf_spec]
  rcases List.mem_append.mp mem with mem | mem
  · have : node.size < sizeOf source := size_lt_of_mem_source mem
    omega
  · obtain ⟨clause, present, inner⟩ := List.mem_flatMap.mp mem
    cases Option.mem_toList.mp present
    have : node.size < sizeOf clause := size_lt_of_mem_conflict inner
    simp only [Option.some.sizeOf_spec]
    omega

theorem size_lt_of_mem_update {update : Update} (mem : node ∈ update.nodes) :
    node.size < sizeOf update := by
  obtain ⟨target, assignments, restriction, returning⟩ := update
  simp only [Update.mk.sizeOf_spec]
  rcases List.mem_append.mp mem with mem | mem
  · have : node.size ≤ sizeOf assignments := size_le_of_mem_assignments mem
    omega
  · have : node.size ≤ sizeOf restriction := size_le_of_mem_toList (fun _ => Nat.le_succ _) mem
    omega

theorem size_lt_of_mem_delete {delete : Delete} (mem : node ∈ delete.nodes) :
    node.size < sizeOf delete := by
  obtain ⟨target, restriction, returning⟩ := delete
  have : node.size ≤ sizeOf restriction := size_le_of_mem_toList (fun _ => Nat.le_succ _) mem
  simp only [Delete.mk.sizeOf_spec]
  omega

theorem size_lt_of_mem_children {child : Node} (mem : child ∈ node.children) :
    child.size < node.size := by
  match node, mem with
  | .statement (.select nested), mem =>
    cases List.mem_singleton.mp mem
    simp only [size, Statement.select.sizeOf_spec]
    omega
  | .statement (.insert nested), mem =>
    have : child.size < sizeOf nested := size_lt_of_mem_insert mem
    show child.size < sizeOf (Statement.insert nested)
    simp only [Statement.insert.sizeOf_spec]
    omega
  | .statement (.update nested), mem =>
    have : child.size < sizeOf nested := size_lt_of_mem_update mem
    show child.size < sizeOf (Statement.update nested)
    simp only [Statement.update.sizeOf_spec]
    omega
  | .statement (.delete nested), mem =>
    have : child.size < sizeOf nested := size_lt_of_mem_delete mem
    show child.size < sizeOf (Statement.delete nested)
    simp only [Statement.delete.sizeOf_spec]
    omega
  | .query _, mem => exact size_lt_of_mem_query mem
  | .group _, mem => exact size_lt_of_mem_group mem
  | .table _, mem => exact size_lt_of_mem_table mem
  | .predicate _, mem => exact size_lt_of_mem_predicate mem
  | .expr _, mem => exact size_lt_of_mem_expr mem
  | .item nested, mem =>
    cases List.mem_singleton.mp mem
    exact Nat.lt_succ_self _

end

theorem Below.size_lt {outer inner : Node} (below : outer.Below inner) : inner.size < outer.size := by
  induction below with
  | single mem => exact size_lt_of_mem_children mem
  | tail _ mem ih => exact Nat.lt_trans (size_lt_of_mem_children mem) ih

/-- What holds of a node if it holds of all nodes below it holds of every node. -/
theorem induction {motive : Node → Prop}
    (step : ∀ node, (∀ inner, node.Below inner → motive inner) → motive node) (node : Node) :
    motive node :=
  (measure size).wf.induction node fun outer ih => step outer fun inner below => ih inner below.size_lt

end Node

end PortableSql
