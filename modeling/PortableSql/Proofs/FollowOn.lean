import PortableSql.Proofs.Notes

/-! Locks in follow-up statements.

A query whose locks are to be taken in follow-up statements has no lock in the text, so that only the
lock strategy of the rendering tells of it. Each query with locks makes a choice where it ends, and the
last choice stands; a choice of follow-up statements is lost if and only if the last one is the clause.
-/

set_option autoImplicit false

namespace PortableSql

/-- A choice is made for every lock. -/
theorem Render.standardLockStrategy_ne_none (config : Config) (lock : LockOptions) :
    standardLockStrategy config lock ≠ .none := by
  rw [standardLockStrategy]
  cases lock.followOn <;> cases config.followOnLocking <;> decide

theorem Mark.lockStrategy_filter (marks : List Mark) :
    lockStrategy (marks.filter isNote) = lockStrategy marks := by
  have kept : (marks.filter isNote).filterMap lockStrategy? = marks.filterMap lockStrategy? :=
    Mark.filterMap_filter (fun mark => by cases mark <;> simp [isNote, lockStrategy?]) marks
  rw [lockStrategy, kept, ← lockStrategy]

/-- How the locks of the queries that are visited are taken, in the order in which the queries end. -/
def Statement.lockStrategies (config : Config) (statement : Statement) : List LockStrategy :=
  ((Node.statement statement).notes config).filterMap Mark.lockStrategy?

/-- What is noted of locks is the choices of the queries that are visited. -/
theorem Node.lock_mem_notes {config : Config} {node : Node} {answer : Option LockStrategy} {chosen : LockStrategy} :
    .lock answer chosen ∈ node.notes config ↔
      answer = none ∧ ∃ nested lock, Dialect.generic.Visits node (.query nested) ∧ nested.lock = some lock ∧
        Render.standardLockStrategy config lock = chosen := by
  constructor
  · intro noted
    induction node using Node.induction with
    | step node ih =>
      rw [notes_eq, List.append_assoc, List.mem_append, List.mem_append] at noted
      rcases noted with leading | below | trailing
      · cases node with
        | statement change => cases change <;> simp [Node.leading] at leading
        | table from_ => cases from_ <;> simp [Node.leading] at leading
        | expr e => cases e <;> simp [Node.leading] at leading
        | query | group | predicate | item => contradiction
      · obtain ⟨inner, mem, noted⟩ := List.mem_flatMap.mp below
        obtain ⟨same, nested, lock, visited, rest⟩ := ih inner (below_of_mem_visits mem) noted
        exact ⟨same, nested, lock, .head mem visited, rest⟩
      · cases node with
        | query nested =>
          obtain ⟨lock, present, same⟩ := List.mem_map.mp trailing
          obtain ⟨rfl, chosen⟩ := Mark.lock.inj same
          exact ⟨rfl, nested, lock, .refl, Option.mem_toList.mp present, chosen⟩
        | statement | group | table | predicate | expr | item => contradiction
  · rintro ⟨rfl, nested, lock, visited, present, rfl⟩
    refine notes_subset visited ?_
    rw [notes_eq]
    exact List.mem_append_right _ (List.mem_map_of_mem (Option.mem_toList.mpr present))

theorem Statement.mem_lockStrategies {config : Config} {statement : Statement} {chosen : LockStrategy} :
    chosen ∈ statement.lockStrategies config ↔
      ∃ nested lock, Dialect.generic.Visits (.statement statement) (.query nested) ∧ nested.lock = some lock ∧
        Render.standardLockStrategy config lock = chosen := by
  constructor
  · intro mem
    obtain ⟨mark, noted, choice⟩ := List.mem_filterMap.mp mem
    cases mark with
    | lock answer strategy =>
      cases choice
      exact (Node.lock_mem_notes.mp noted).2
    | text | literal | placeholder | table | offer => contradiction
  · intro visited
    exact List.mem_filterMap.mpr ⟨.lock none chosen, Node.lock_mem_notes.mpr ⟨rfl, visited⟩, rfl⟩

/-- The last choice stands. -/
theorem Statement.render_lock (statement : Statement) (config : Config) :
    ∃ rendering, statement.render ⟨.generic, config⟩ = .ok rendering ∧
      rendering.lock = (statement.lockStrategies config).getLast?.getD .none := by
  have noted : (Render.statement ⟨.generic, config⟩ statement).Notes ((Node.statement statement).notes config) :=
    Render.node_noted config (.statement statement)
  have rendered : statement.render ⟨.generic, config⟩ =
      .ok (.ofMarks config (Render.statement ⟨.generic, config⟩ statement).marks) := by
    rw [render, Fragment.rendering, noted.whole]
  refine ⟨_, rendered, ?_⟩
  rw [Rendering.ofMarks, ← Mark.lockStrategy_filter, noted.notes]
  rfl

/-- If the locks of a query that is visited are to be taken in follow-up statements, then the rendering
says so, unless a query that ends after all of those takes its locks by the clause. -/
theorem Statement.render_followOn (statement : Statement) (config : Config) {nested : Query} {lock : LockOptions}
    (visited : Dialect.generic.Visits (.statement statement) (.query nested)) (locked : nested.lock = some lock)
    (followOn : Render.standardLockStrategy config lock = .followOn) :
    ∃ rendering, statement.render ⟨.generic, config⟩ = .ok rendering ∧
      (rendering.lock = .followOn ↔ (statement.lockStrategies config).getLast? ≠ some .clause) := by
  obtain ⟨rendering, rendered, last⟩ := statement.render_lock config
  refine ⟨rendering, rendered, ?_⟩
  have inhabited : statement.lockStrategies config ≠ [] :=
    List.ne_nil_of_mem (mem_lockStrategies.mpr ⟨nested, lock, visited, locked, followOn⟩)
  have chosen : (statement.lockStrategies config).getLast inhabited ≠ .none := by
    obtain ⟨_, other, _, _, same⟩ := mem_lockStrategies.mp (List.getLast_mem inhabited)
    exact same ▸ Render.standardLockStrategy_ne_none config other
  rw [last, List.getLast?_eq_some_getLast inhabited, Option.getD_some]
  cases strategy : (statement.lockStrategies config).getLast inhabited with
  | none => contradiction
  | clause => simp
  | followOn => simp

-- `select * from s`, with locks that are to be taken in a follow-up statement.
def Query.lockedLater : Query :=
  { Query.empty with
    selections := [⟨.star, none⟩]
    sources := [⟨.named { table := "s" }, []⟩]
    lock := some { mode := .write, followOn := .force } }

/-- `select * from t where exists (select * from s)`, with locks of the whole query. -/
def Statement.lockedTest (lock : Option LockOptions) : Statement :=
  .select { Query.empty with
    selections := [⟨.star, none⟩]
    sources := [⟨.named { table := "t" }, []⟩]
    restriction := some (.existence .lockedLater false)
    lock }

theorem Statement.lockedTest_visits (lock : Option LockOptions) :
    Dialect.generic.Visits (.statement (lockedTest lock)) (.query .lockedLater) :=
  -- The test follows the selection and the source of the query.
  (((Relation.ReflTransGen.refl.tail (.head _)).tail (.tail _ (.tail _ (.head _)))).tail (.head _))

/-- The only locks of a statement are taken in a follow-up statement. -/
theorem Statement.render_followOn_test :
    Dialect.generic.Visits (.statement (lockedTest none)) (.query .lockedLater) ∧
      Query.lockedLater.lock = some { mode := .write, followOn := .force } ∧
      Render.standardLockStrategy .generic { mode := .write, followOn := .force } = .followOn ∧
      ∃ rendering, (lockedTest none).render ⟨.generic, .generic⟩ = .ok rendering ∧
        (rendering.lock = .followOn ↔ ((lockedTest none).lockStrategies .generic).getLast? ≠ some .clause) :=
  ⟨lockedTest_visits none, rfl, rfl,
    (lockedTest none).render_followOn .generic (lockedTest_visits none) rfl rfl⟩

/-- The lock clause of the whole query takes the place of the choice of the query inside. -/
theorem Statement.followOn_overtaken :
    let statement := lockedTest (some { mode := .write, followOn := .disallow })
    Dialect.generic.Visits (.statement statement) (.query .lockedLater) ∧
      Query.lockedLater.lock = some { mode := .write, followOn := .force } ∧
      Render.standardLockStrategy .generic { mode := .write, followOn := .force } = .followOn ∧
      (statement.render ⟨.generic, .generic⟩).map (fun rendering => (rendering.sql, rendering.lock)) =
        .ok ("select * from t where exists (select * from s) for update", .clause) :=
  ⟨lockedTest_visits _, rfl, rfl, rfl⟩

end PortableSql
