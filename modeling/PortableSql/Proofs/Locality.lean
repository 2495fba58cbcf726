import PortableSql.Proofs.WriterView
import PortableSql.Proofs.WrittenStatement

/-! Calls add the same wherever they are made.

A writer may look at all that it holds when it goes on. Yet what a call adds depends on the target and the
innermost clause alone: it takes the marks that the same call adds to a session with that clause, and is
reported on in the same words (`Writer.call_run`). So a statement is written as it is rendered, calls on a
writer and on a session come to the same, and two writers with the same innermost clause gain the same text,
parameters, tables and lock strategy, each in its own place.
-/

set_option autoImplicit false

namespace PortableSql

/-- An empty writer that writes a statement holds in the end what the statement is rendered to, and it fails
where the rendering does. -/
theorem Statement.write_eq_render (statement : Statement) (target : Target) :
    statement.write target = statement.render target := by
  have writes : Write.statement target statement ({} : Writer) = _ := Writes.statement statement none {} rfl
  rw [write, writes, render, Fragment.rendering]
  unfold Fragment.result
  cases (Render.statement target statement).failure with
  | some cause => rfl
  | none => exact congrArg Except.ok (Writer.finish_takeAll target.config _ [])

/-- A session with marks added to its own. -/
def Session.extended (session : Session) (added : List Mark) : Session :=
  { session with marks := session.marks ++ added }

theorem Session.extended_nil (session : Session) : session.extended [] = session := by
  rw [extended, List.append_nil]

theorem Session.extended_append (session : Session) (first second : List Mark) :
    session.extended (first ++ second) = (session.extended first).extended second := by
  simp only [extended, List.append_assoc]

theorem Session.addedText_extended (session : Session) (added : List Mark) :
    session.addedText (session.extended added) = Mark.sqlText session.target.config added := by
  rw [addedText, extended, List.drop_left]

namespace Writer

open SessionStep

theorem failure_result (fragment : Fragment) : failure fragment.result = fragment.failure := by
  unfold Fragment.result
  cases fragment.failure <;> rfl

variable {target : Target}

mutual

/-- A call adds the same marks to a writer and to a session with the same innermost clause, and the reports are
the same. -/
theorem call_run {writer : Writer} {session : Session} (same : session.target = target)
    (clause : writer.clause? = session.clause?) :
    (step : SessionStep) → ∃ added,
      (call target writer step).1 = writer.takeAll target.config added ∧
      (step.run session).1 = session.extended added ∧ (call target writer step).2 = (step.run session).2
  | .piece node => by
    subst same
    let fragment := node.fragment session.target session.clause?
    have writes : Write.piece session.target node writer = _ := Writes.piece session.clause? node writer clause
    have taken := takeAll_within session.target.config writer session.clause? fragment.marks
    refine ⟨fragment.marks.map (Mark.within session.clause?), ?_, rfl, ?_⟩
    · rw [taken, call, writes]
    · have text := session.addedText_extended (fragment.marks.map (Mark.within session.clause?))
      have added := writer.addedText_takeAll session.target.config
        (fragment.marks.map (Mark.within session.clause?))
      rw [taken, ← text] at added
      rw [call, writes, run]
      simp only [clause?_takeAll, failure_result, clause]
      exact congrArg (StepReport.mk · _ _ _) added
  | .inClause inner steps => by
    have target_eq : (session.enter inner).target = target := same
    have entered : (writer.enter inner).clause? = (session.enter inner).clause? := rfl
    obtain ⟨added, taken, marked, reported⟩ := callToFailure_run target_eq entered steps
    have left : (callToFailure target (writer.enter inner) steps).1.leave = writer.takeAll target.config added := by
      rw [taken, leave_takeAll_enter]
    have left' : (runToFailure (session.enter inner) steps).1.leave = session.extended added := by
      rw [marked]
      rfl
    refine ⟨added, left, left', ?_⟩
    simp only [call, run, left, left', reported, addedText_takeAll, session.addedText_extended, clause?_takeAll, same,
      clause]
    rfl
  | .refused cause => ⟨[], rfl, by rw [run, session.extended_nil], by rw [call, run, clause]⟩

theorem callToFailure_run {writer : Writer} {session : Session} (same : session.target = target)
    (clause : writer.clause? = session.clause?) :
    (steps : List SessionStep) → ∃ added,
      (callToFailure target writer steps).1 = writer.takeAll target.config added ∧
      (runToFailure session steps).1 = session.extended added ∧
      (callToFailure target writer steps).2 = (runToFailure session steps).2
  | [] => ⟨[], rfl, session.extended_nil.symm, rfl⟩
  | step :: rest => by
    obtain ⟨added, taken, marked, reported⟩ := call_run same clause step
    have target_eq : (session.extended added).target = target := same
    have after : (writer.takeAll target.config added).clause? = (session.extended added).clause? :=
      (writer.clause?_takeAll target.config added).trans clause
    obtain ⟨others, taken', marked', reported'⟩ := callToFailure_run target_eq after rest
    simp only [callToFailure, runToFailure, reported]
    cases (step.run session).2.failure with
    | some cause => exact ⟨added, taken, marked, rfl⟩
    | none =>
      refine ⟨added ++ others, ?_, ?_, ?_⟩
      · simp only [taken, taken', takeAll_append]
      · simp only [marked, marked', Session.extended_append]
      · simp only [taken, marked, reported']

end

/-- Calls after a failed one are no exception. -/
theorem callAll_runAll {writer : Writer} {session : Session} (same : session.target = target)
    (clause : writer.clause? = session.clause?)
    (steps : List SessionStep) : ∃ added,
      (callAll target writer steps).1 = writer.takeAll target.config added ∧
      (runAll session steps).1 = session.extended added ∧
      (callAll target writer steps).2 = (runAll session steps).2 := by
  induction steps generalizing writer session with
  | nil => exact ⟨[], rfl, session.extended_nil.symm, rfl⟩
  | cons step rest ih =>
    obtain ⟨added, taken, marked, reported⟩ := call_run same clause step
    have target_eq : (session.extended added).target = target := same
    have after : (writer.takeAll target.config added).clause? = (session.extended added).clause? :=
      (writer.clause?_takeAll target.config added).trans clause
    obtain ⟨others, taken', marked', reported'⟩ := ih target_eq after
    refine ⟨added ++ others, ?_, ?_, ?_⟩
    · simp only [callAll, taken, taken', takeAll_append]
    · simp only [runAll, marked, marked', Session.extended_append]
    · simp only [callAll, runAll, taken, marked, reported, reported']

/-- Calls that start with nothing written come to the same for a writer and for a session. -/
theorem finish_callAll (target : Target) (steps : List SessionStep) :
    (callAll target {} steps).1.finish = (runAll { target } steps).1.finish ∧
      (callAll target {} steps).2 = (runAll { target } steps).2 := by
  let session : Session := { target }
  let writer : Writer := {}
  have clause : writer.clause? = session.clause? := rfl
  obtain ⟨added, taken, marked, reported⟩ := callAll_runAll rfl clause steps
  refine ⟨?_, reported⟩
  rw [taken, finish_takeAll, marked]
  rfl

/-- Calls have the same outcomes for writers with the same innermost clause, whatever was written by them, and
both writers gain the same: text, parameters, tables and lock strategy. -/
theorem callAll_local (target : Target) {first second : Writer} (clause : second.clause? = first.clause?)
    (steps : List SessionStep) :
    (callAll target second steps).2 = (callAll target first steps).2 ∧
      ∃ gain, first.Gains gain (callAll target first steps).1 ∧
        second.Gains gain (callAll target second steps).1 := by
  let session : Session := { target, clauses := first.clauses }
  have known : session.target = target := rfl
  have own : first.clause? = session.clause? := rfl
  have other : second.clause? = session.clause? := clause
  obtain ⟨added, taken, marked, reported⟩ := callAll_runAll known own steps
  obtain ⟨others, taken', marked', reported'⟩ := callAll_runAll known other steps
  have same : added = others := congrArg Session.marks (marked.symm.trans marked')
  subst same
  refine ⟨reported'.trans reported.symm, .ofMarks target.config added, ?_, ?_⟩
  · rw [taken]
    exact first.gains_takeAll target.config added
  · rw [taken']
    exact second.gains_takeAll target.config added

end Writer

/-- The source of an insertion that is refused half way, then a target, in the insert clause: once at the start
and once after other text, with other clauses around. -/
theorem Writer.callAll_local_refused :
    let target : Target := ⟨.spanner, .spanner⟩
    let refused : Expr := .summarization .rollup []
    let source : Query := { Query.empty with selections := [⟨.parameter {}, none⟩], groupBy := [refused] }
    let steps : List SessionStep := [.piece (.insertSource (.query source)), .piece (.dmlTarget ⟨"t", some "u"⟩)]
    let first : Writer := { clauses := [.insert] }
    let second : Writer :=
      { text := "x?", clauses := [.insert, .select], bindings := [⟨1, none, .bigInt⟩],
        tables := NameSet.add .empty "s", lock := .followOn }
    second.clause? = first.clause? ∧
      (callAll target second steps).2.map StepReport.failure = [some (.summarization .rollup), none] ∧
      (callAll target second steps).1.text = "x?select ? group by t" ∧
      (callAll target second steps).2 = (callAll target first steps).2 ∧
      ∃ gain, first.Gains gain (callAll target first steps).1 ∧
        second.Gains gain (callAll target second steps).1 := by
  intro target refused source steps first second
  have same : second.clause? = first.clause? := rfl
  exact ⟨same, rfl, rfl, callAll_local target same steps⟩

end PortableSql
