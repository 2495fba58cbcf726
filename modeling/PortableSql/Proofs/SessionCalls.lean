import PortableSql.Proofs.OwnCharacter
import PortableSql.Session

/-! What calls on a session keep.

A session is used by calls that follow one another, some of them in clauses that a call opens
(`Session.Calls`). Each call adds to the marks and leaves the open clauses as they were, whether it fails
or not. What is read off the marks grows with them: the text, the parameters, which are numbered in their
order, and the tables. The placeholders in the text are the parameters.
-/

set_option autoImplicit false

namespace PortableSql

theorem NameMap.mem_names_insert {α : Type} {map : NameMap α} {name other : String} {value : α} :
    other ∈ (map.insert name value).names ↔ other = name ∨ other ∈ map.names := by
  have entries (entries : List (String × α)) :
      other ∈ (setEntry name value entries).map Prod.fst ↔ other = name ∨ other ∈ entries.map Prod.fst := by
    induction entries with
    | nil => simp [setEntry]
    | cons entry rest ih =>
      unfold setEntry
      split_ifs with before same
      · simp
      · simp [same]
      · rw [List.map_cons, List.mem_cons, ih, List.map_cons, List.mem_cons, or_left_comm]
  exact entries map.entries

theorem NameSet.mem_names_foldl_add {set : NameSet} {names : List String} {name : String} :
    name ∈ (names.foldl NameSet.add set).names ↔ name ∈ set.names ∨ name ∈ names := by
  induction names generalizing set with
  | nil => simp
  | cons other names ih =>
    rw [List.foldl_cons, ih, NameSet.add, NameMap.mem_names_insert, List.mem_cons, or_assoc, or_left_comm]

namespace Mark

theorem length_bindings (marks : List Mark) : (bindings marks).length = (parameters marks).length := by
  rw [bindings, List.length_map, List.length_zipIdx]

theorem parameters_cons (mark : Mark) (marks : List Mark) :
    parameters (mark :: marks) = mark.parameter?.toList ++ parameters marks := by
  rw [parameters, List.filterMap_cons]
  cases mark.parameter? <;> rfl

theorem bindings_position (marks : List Mark) :
    (bindings marks).map Binding.position = List.range' 1 (bindings marks).length := by
  have numbers : (bindings marks).map Binding.position = ((parameters marks).zipIdx.map Prod.snd).map (1 + ·) := by
    simp only [bindings, List.map_map, Function.comp_def, Nat.add_comm]
  rw [numbers, List.zipIdx_map_snd, List.map_add_range', length_bindings]

section

variable {first second : List Mark} (grows : first <+: second)

include grows

theorem sqlText_prefix (config : Config) :
    (sqlText config first).toList <+: (sqlText config second).toList := by
  obtain ⟨added, rfl⟩ := grows
  rw [sqlText_append, String.toList_append]
  exact List.prefix_append _ _

theorem bindings_prefix : bindings first <+: bindings second := by
  obtain ⟨added, rfl⟩ := grows
  rw [bindings, bindings, parameters, parameters, List.filterMap_append, List.zipIdx_append, List.map_append]
  exact List.prefix_append _ _

theorem tables_subset : (tables first).names ⊆ (tables second).names := by
  obtain ⟨added, rfl⟩ := grows
  rw [tables, tables, List.filterMap_append, List.foldl_append]
  exact fun name mem => NameSet.mem_names_foldl_add.mpr (.inl mem)

end

/-- A mark that was given no question mark has one for its parameter, if it has a parameter. -/
theorem count_sql (config : Config) {mark : Mark} (lacks : mark.Lacks '?') :
    (mark.sql config).toList.count '?' = mark.parameter?.toList.length := by
  cases mark with
  | text words => exact List.count_eq_zero.mpr lacks
  | literal content =>
    refine List.count_eq_zero.mpr fun mem => ?_
    rcases LiteralEscape.mem_quote mem with mem | own
    · exact lacks mem
    · exact absurd own (by decide)
  | placeholder => exact show "?".toList.count '?' = 1 by decide
  | table | lock | offer => rfl

theorem count_sqlText (config : Config) {marks : List Mark} (lack : ∀ mark ∈ marks, mark.Lacks '?') :
    (sqlText config marks).toList.count '?' = (bindings marks).length := by
  rw [length_bindings]
  induction marks with
  | nil => rfl
  | cons mark marks ih =>
    obtain ⟨own, others⟩ := List.forall_mem_cons.mp lack
    have text : sqlText config (mark :: marks) = mark.sql config ++ sqlText config marks := String.join_cons
    rw [text, parameters_cons, String.toList_append, List.count_append, List.length_append, count_sql config own,
      ih others]

end Mark

namespace Session

/-- Calls that follow one another, from one state of a session to another. A call writes a piece that is
supplied, or opens a clause for calls of its own and closes it after them. Which calls are still made
after one that failed is left open, in a clause and outside. -/
inductive Calls (Supplied : Piece → Prop) : Session → Session → Prop
  | done (session : Session) : Calls Supplied session session
  | write {session last : Session} (piece : Piece) : Supplied piece →
    Calls Supplied (session.write piece).1 last → Calls Supplied session last
  | clause {session inner last : Session} (clause : Clause) : Calls Supplied (session.enter clause) inner →
    Calls Supplied inner.leave last → Calls Supplied session last

/-- A state that calls lead to, be it inside clauses that are still open. -/
inductive Reached (Supplied : Piece → Prop) (target : Target) : Session → Prop
  | start : Reached Supplied target { target }
  | calls {before after : Session} : Reached Supplied target before → Calls Supplied before after →
    Reached Supplied target after
  | enter {session : Session} (clause : Clause) : Reached Supplied target session →
    Reached Supplied target (session.enter clause)

/-- Whether a state of a session has all that an earlier one has, in its place, and the same open
clauses. -/
structure Extends (before after : Session) : Prop where
  target : after.target = before.target
  clauses : after.clauses = before.clauses
  sql : before.finish.sql.toList <+: after.finish.sql.toList
  bindings : before.finish.bindings <+: after.finish.bindings
  tables : before.finish.tables.names ⊆ after.finish.tables.names

namespace Extends

variable {first second third : Session}

theorem of_marks (target : second.target = first.target) (clauses : second.clauses = first.clauses)
    (grows : first.marks <+: second.marks) : first.Extends second where
  target
  clauses
  sql := by
    rw [finish, finish, target]
    exact Mark.sqlText_prefix grows _
  bindings := Mark.bindings_prefix grows
  tables := Mark.tables_subset grows

theorem trans (left : first.Extends second) (right : second.Extends third) : first.Extends third where
  target := right.target.trans left.target
  clauses := right.clauses.trans left.clauses
  sql := left.sql.trans right.sql
  bindings := left.bindings.trans right.bindings
  tables := List.Subset.trans left.tables right.tables

theorem write (session : Session) (piece : Piece) : session.Extends (session.write piece).1 :=
  of_marks rfl rfl (List.prefix_append _ _)

/-- What is done in a clause, seen from outside of it. -/
theorem leave {clause : Clause} (inside : (first.enter clause).Extends second) : first.Extends second.leave where
  target := inside.target
  clauses := congrArg List.tail inside.clauses
  sql := inside.sql
  bindings := inside.bindings
  tables := inside.tables

end Extends

namespace Calls

variable {Supplied : Piece → Prop} {before middle after : Session}

theorem trans (first : Calls Supplied before middle) (second : Calls Supplied middle after) :
    Calls Supplied before after := by
  induction first with
  | done => exact second
  | write piece supplied _ ih => exact .write piece supplied (ih second)
  | clause clause inside _ _ ih => exact .clause clause inside (ih second)

theorem extend (calls : Calls Supplied before after) : before.Extends after := by
  induction calls with
  | done => exact .of_marks rfl rfl List.prefix_rfl
  | write piece _ _ ih => exact (Extends.write _ piece).trans ih
  | clause _ _ _ inside ih => exact inside.leave.trans ih

/-- Calls leave a character out if it stands in nothing that is handed to them. -/
theorem lack {c : Char} (foreign : isOwnChar c = false) (calls : Calls Supplied before after)
    (plain : ∀ text ∈ before.target.config.statementTexts, c ∉ text.toList)
    (lacking : ∀ piece, Supplied piece → piece.Lacks c) (lack : ∀ mark ∈ before.marks, mark.Lacks c) :
    ∀ mark ∈ after.marks, mark.Lacks c := by
  induction calls with
  | done => exact lack
  | @write session _ piece supplied _ ih =>
    refine ih plain (List.forall_mem_append.mpr ⟨lack, List.forall_mem_map.mpr fun mark mem => ?_⟩)
    exact Mark.lacks_within.mpr (piece.marks_lack foreign plain (lacking piece supplied) session.clause? mark mem)
  | @clause session inner _ clause inside _ ihInside ih =>
    have same : inner.target = session.target := inside.extend.target
    exact ih (by rwa [leave, same]) (ihInside plain lack)

end Calls

namespace Reached

variable {Supplied : Piece → Prop} {target : Target} {session : Session}

theorem target_eq (reached : Reached Supplied target session) : session.target = target := by
  induction reached with
  | start => rfl
  | calls _ calls ih => exact calls.extend.target.trans ih
  | enter _ _ ih => exact ih

theorem lack {c : Char} (foreign : isOwnChar c = false) (reached : Reached Supplied target session)
    (plain : ∀ text ∈ target.config.statementTexts, c ∉ text.toList)
    (lacking : ∀ piece, Supplied piece → piece.Lacks c) : ∀ mark ∈ session.marks, mark.Lacks c := by
  induction reached with
  | start => exact fun _ mem => absurd mem List.not_mem_nil
  | calls reached calls ih => exact calls.lack foreign (by rwa [reached.target_eq]) lacking ih
  | enter _ _ ih => exact ih

end Reached

/-- Calls, be they made inside clauses, leave the open clauses as they were and only add to the text, the
parameters and the tables, whether they fail or not. Parameters are numbered from one in their order, and
if nothing that was supplied has a question mark then the text has as many of them as parameters. -/
theorem calls_extend {Supplied : Piece → Prop} {target : Target} {before after : Session}
    (reached : Reached Supplied target before) (calls : Calls Supplied before after) :
    before.Extends after ∧
      after.finish.bindings.map Binding.position = List.range' 1 after.finish.bindings.length ∧
      ((∀ text ∈ target.config.statementTexts, '?' ∉ text.toList) →
        (∀ piece, Supplied piece → piece.Lacks '?') →
        after.finish.sql.toList.count '?' = after.finish.bindings.length) := by
  refine ⟨calls.extend, Mark.bindings_position after.marks, fun plain lacking => ?_⟩
  exact Mark.count_sqlText _ ((reached.calls calls).lack (by decide) plain lacking)

end Session

namespace SessionStep

open Session

mutual

/-- The pieces that a step may write, at any depth of clauses. -/
def pieces : SessionStep → List Piece
  | .piece node => [node]
  | .inClause _ steps => piecesOfAll steps
  | .refused _ => []

def piecesOfAll : List SessionStep → List Piece
  | [] => []
  | step :: rest => step.pieces ++ piecesOfAll rest

end

variable {Supplied : Piece → Prop}

mutual

theorem run_calls (session : Session) : (step : SessionStep) → (∀ piece ∈ step.pieces, Supplied piece) →
    Calls Supplied session (step.run session).1
  | .piece node, supplied => .write node (supplied node (.head _)) (.done _)
  | .inClause clause steps, supplied =>
    .clause clause (runToFailure_calls (session.enter clause) steps supplied) (.done _)
  | .refused _, _ => .done session

theorem runToFailure_calls (session : Session) : (steps : List SessionStep) →
    (∀ piece ∈ piecesOfAll steps, Supplied piece) → Calls Supplied session (runToFailure session steps).1
  | [], _ => .done session
  | step :: rest, supplied => by
    have first := run_calls session step fun piece mem => supplied piece (List.mem_append_left _ mem)
    have others := runToFailure_calls (step.run session).1 rest fun piece mem =>
      supplied piece (List.mem_append_right _ mem)
    cases failed : (step.run session).2.failure with
    | some cause => simpa only [runToFailure, failed] using first
    | none => simpa only [runToFailure, failed] using first.trans others

end

/-- A run of steps makes calls one after another, those after a failed one included. -/
theorem runAll_calls (session : Session) (steps : List SessionStep)
    (supplied : ∀ piece ∈ piecesOfAll steps, Supplied piece) :
    Calls Supplied session (runAll session steps).1 := by
  induction steps generalizing session with
  | nil => exact .done session
  | cons step rest ih =>
    have first := step.run_calls session fun piece mem => supplied piece (List.mem_append_left _ mem)
    exact first.trans (ih _ fun piece mem => supplied piece (List.mem_append_right _ mem))

end SessionStep

/-- A clause in which a parameter is written before a grouping that Spanner refuses. -/
theorem Session.calls_extend_refused :
    let target : Target := ⟨.spanner, .spanner⟩
    let step : SessionStep := .inClause .restriction
      [.piece (.text "a="), .piece (.parameter {}), .piece (.partitionItem (.summarization .rollup []))]
    let before : Session := { target }
    let after := (step.run before).1
    (step.run before).2.failure = some (.summarization .rollup) ∧
      Reached (· ∈ step.pieces) target before ∧ Calls (· ∈ step.pieces) before after ∧
      (∀ text ∈ target.config.statementTexts, '?' ∉ text.toList) ∧
      (∀ piece ∈ step.pieces, piece.Lacks '?') ∧
      before.Extends after ∧
      after.finish.bindings.map Binding.position = List.range' 1 after.finish.bindings.length ∧
      after.finish.sql.toList.count '?' = after.finish.bindings.length := by
  intro target step before after
  have reached : Reached (· ∈ step.pieces) target before := .start
  have calls : Calls (· ∈ step.pieces) before after := step.run_calls before fun _ mem => mem
  have plain : ∀ text ∈ target.config.statementTexts, '?' ∉ text.toList := by decide
  have lacking : ∀ piece ∈ step.pieces, piece.Lacks '?' := by
    intro piece mem
    simp only [step, SessionStep.pieces, SessionStep.piecesOfAll, List.append_nil, List.cons_append,
      List.nil_append, List.mem_cons, List.not_mem_nil, or_false] at mem
    rcases mem with rfl | rfl | rfl
    · exact ⟨by decide, nofun⟩
    · refine ⟨nofun, fun node mem inner within => ?_⟩
      obtain rfl := List.mem_singleton.mp mem
      rcases within.cases_head with rfl | ⟨child, mem, _⟩
      · exact nofun
      · exact absurd mem List.not_mem_nil
    · refine ⟨nofun, fun node mem inner within => ?_⟩
      obtain rfl := List.mem_singleton.mp mem
      rcases within.cases_head with rfl | ⟨child, mem, within⟩
      · exact nofun
      obtain rfl := List.mem_singleton.mp mem
      rcases within.cases_head with rfl | ⟨child, mem, _⟩
      · exact nofun
      · exact absurd mem List.not_mem_nil
  obtain ⟨extend, numbered, counted⟩ := calls_extend reached calls
  exact ⟨rfl, reached, calls, plain, lacking, extend, numbered, counted plain lacking⟩

end PortableSql
