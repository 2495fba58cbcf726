import PortableSql.Render.Piece

/-! Sessions: statements written piece by piece.

A session is the clauses that are open and the marks written so far. A step writes a piece, or opens a
clause for steps of its own and closes it whatever comes of them. What a failed step wrote stays
written; the steps after it go on, save in a clause, where the first failure ends the clause.
-/

set_option autoImplicit false

namespace PortableSql

/-- A statement being written. -/
structure Session where
  target : Target
  -- The open clauses, the innermost first.
  clauses : List Clause := []
  marks : List Mark := []

namespace Session

def clause? (session : Session) : Option Clause :=
  session.clauses.head?

def finish (session : Session) : Rendering :=
  .ofMarks session.target.config session.marks

def add (session : Session) (fragment : Fragment) : Session :=
  { session with marks := session.marks ++ fragment.marks.map (Mark.within session.clause?) }

/-- Add a piece; the second part is why it failed, if it did. -/
def write (session : Session) (piece : Piece) : Session × Option Error :=
  let fragment := piece.fragment session.target session.clause?
  (session.add fragment, fragment.failure)

def enter (session : Session) (clause : Clause) : Session :=
  { session with clauses := clause :: session.clauses }

def leave (session : Session) : Session :=
  { session with clauses := session.clauses.tail }

/-- The text that a later state of a session has more than an earlier one. -/
def addedText (before after : Session) : String :=
  Mark.sqlText after.target.config (after.marks.drop before.marks.length)

end Session

inductive SessionStep where
  | piece (piece : Piece)
  | inClause (clause : Clause) (steps : List SessionStep)
  -- A step that fails before it writes anything.
  | refused (cause : Error)

instance : Inhabited SessionStep := ⟨.refused .json⟩

inductive StepReport where
  | mk (added : String) (clause : Option Clause) (failure : Option Error)
    (inner : Option (List StepReport))

namespace StepReport

def added : StepReport → String
  | ⟨added, _, _, _⟩ => added

def clause : StepReport → Option Clause
  | ⟨_, clause, _, _⟩ => clause

def failure : StepReport → Option Error
  | ⟨_, _, failure, _⟩ => failure

def inner : StepReport → Option (List StepReport)
  | ⟨_, _, _, inner⟩ => inner

end StepReport

namespace SessionStep

mutual

def run (session : Session) : SessionStep → Session × StepReport
  | .piece node =>
    let (after, failure) := session.write node
    (after, ⟨session.addedText after, after.clause?, failure, none⟩)
  | .inClause clause steps =>
    let (last, reports, failure) := runToFailure (session.enter clause) steps
    let after := last.leave
    (after, ⟨session.addedText after, after.clause?, failure, some reports⟩)
  | .refused cause => (session, ⟨"", session.clause?, some cause, none⟩)

/-- Take steps up to the first that fails. -/
def runToFailure (session : Session) :
    List SessionStep → Session × List StepReport × Option Error
  | [] => (session, [], none)
  | step :: rest =>
    let (after, report) := step.run session
    match report.failure with
    | some cause => (after, [report], some cause)
    | none =>
      let (last, reports, failure) := runToFailure after rest
      (last, report :: reports, failure)

end

def runAll (session : Session) : List SessionStep → Session × List StepReport
  | [] => (session, [])
  | step :: rest =>
    let (after, report) := step.run session
    let (last, reports) := runAll after rest
    (last, report :: reports)

end SessionStep

end PortableSql
