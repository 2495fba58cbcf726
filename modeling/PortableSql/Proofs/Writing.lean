import Mathlib.Data.List.Forall2
import PortableSql.Writer

/-! Actions that write a fragment.

A writer takes the marks of a fragment one by one (`Writer.take`). An action writes a fragment if it always
leaves the writer as the marks of the fragment do and fails as the fragment does, whatever was written before
(`Writes`), and a hook answers with a fragment if it writes that, or with none if it leaves the writer alone
(`Answers`). Both are kept by all that actions are put together from; what may depend on the innermost clause
is said of one clause only (`WritesIn`).
-/

set_option autoImplicit false

namespace PortableSql

namespace Writer

variable (config : Config)

/-- The writer after a mark; an offer is not written. -/
def take (writer : Writer) : Mark → Writer
  | .text words => { writer with text := writer.text ++ words }
  | .literal content => { writer with text := writer.text ++ config.quote content }
  | .placeholder parameter =>
    { writer with
      text := writer.text ++ "?"
      bindings := writer.bindings ++ [⟨writer.bindings.length + 1, parameter.name, parameter.sqlType⟩] }
  | .table name => { writer with tables := writer.tables.add name }
  | .lock _ chosen => { writer with lock := chosen }
  | .offer _ _ _ => writer

def takeAll (writer : Writer) (marks : List Mark) : Writer :=
  marks.foldl (take config) writer

theorem takeAll_append (writer : Writer) (first second : List Mark) :
    writer.takeAll config (first ++ second) = (writer.takeAll config first).takeAll config second :=
  List.foldl_append

-- The clause of an offer is of no matter to a writer.
theorem takeAll_within (writer : Writer) (clause : Option Clause) (marks : List Mark) :
    writer.takeAll config (marks.map (Mark.within clause)) = writer.takeAll config marks := by
  have same (writer : Writer) (mark : Mark) :
      writer.take config (mark.within clause) = writer.take config mark :=
    congrFun (Mark.comp_within (writer.take config) (fun _ _ _ _ => rfl) clause) mark
  simp only [takeAll, List.foldl_map, same]

theorem clauses_takeAll (writer : Writer) (marks : List Mark) :
    (writer.takeAll config marks).clauses = writer.clauses := by
  induction marks generalizing writer with
  | nil => rfl
  | cons mark marks ih =>
    have kept : (writer.take config mark).clauses = writer.clauses := by cases mark <;> rfl
    exact (ih _).trans kept

theorem clause?_takeAll (writer : Writer) (marks : List Mark) :
    (writer.takeAll config marks).clause? = writer.clause? :=
  congrArg List.head? (clauses_takeAll config writer marks)

/-- What is taken in a clause is there when the clause is closed. -/
theorem leave_takeAll_enter (writer : Writer) (clause : Clause) (marks : List Mark) :
    ((writer.enter clause).takeAll config marks).leave = writer.takeAll config marks := by
  have inside : (writer.enter clause).takeAll config marks = (writer.takeAll config marks).enter clause := by
    induction marks generalizing writer with
    | nil => rfl
    | cons mark marks ih =>
      have step : (writer.enter clause).take config mark = (writer.take config mark).enter clause := by
        cases mark <;> rfl
      rw [takeAll, List.foldl_cons, step]
      exact ih _
  rw [inside]
  rfl

end Writer

def Fragment.result (fragment : Fragment) : Except Error Unit :=
  match fragment.failure with
  | none => .ok ()
  | some cause => .error cause

/-- Whether an action writes a fragment wherever the innermost clause is the given one. -/
def WritesIn (config : Config) (clause : Option Clause) (action : Action) (fragment : Fragment) : Prop :=
  ∀ writer : Writer, writer.clause? = clause →
    action writer = (fragment.result, writer.takeAll config fragment.marks)

/-- Whether an action writes a fragment wherever it is taken. -/
def Writes (config : Config) (action : Action) (fragment : Fragment) : Prop :=
  ∀ clause, WritesIn config clause action fragment

def AnswersIn (config : Config) (clause : Option Clause) (hook : Write Emission)
    (answer : Option Fragment) : Prop :=
  ∀ writer : Writer, writer.clause? = clause →
    hook writer = match answer with
      | none => (.ok .standard, writer)
      | some fragment => (fragment.result.map fun _ => .written, writer.takeAll config fragment.marks)

/-- Whether a hook writes the fragment that is the answer or, without an answer, leaves the writer alone. -/
def Answers (config : Config) (hook : Write Emission) (answer : Option Fragment) : Prop :=
  ∀ clause, AnswersIn config clause hook answer

namespace Write

/-- An action goes on with what the one before has left, unless that failed. -/
theorem bind_apply {α β : Type} (first : Write α) (next : α → Write β) (writer : Writer) :
    (first >>= next) writer = match first writer with
      | (.ok value, after) => next value after
      | (.error cause, after) => (.error cause, after) := by
  show (match first writer with | (result, after) => ExceptT.bindCont next result after) = _
  cases first writer with
  | mk result after => cases result <;> rfl

end Write

section

variable {config : Config} {around : Option Clause} {action first second usual : Action}
  {fragment f g s : Fragment}

namespace WritesIn

theorem seq (one : WritesIn config around first f) (two : WritesIn config around second g) :
    WritesIn config around (do first; second) (f ++ g) := by
  intro writer here
  rw [Write.bind_apply, one writer here]
  obtain ⟨marks, failure⟩ := f
  cases failure with
  | some cause => rfl
  | none =>
    have there := two (writer.takeAll config marks) ((writer.clause?_takeAll config marks).trans here)
    rw [← Writer.takeAll_append] at there
    exact there

/-- An offer goes the way of the answer. -/
theorem offer {hook : Write Emission} {answer : Option Fragment} (construct : Construct)
    (answers : AnswersIn config around hook answer) (writes : WritesIn config around usual s) :
    WritesIn config around (Write.offer hook usual) (.offer construct answer s) := by
  intro writer here
  rw [Write.offer, Write.bind_apply, answers writer here]
  cases answer with
  | none => exact writes writer here
  | some fragment =>
    obtain ⟨marks, failure⟩ := fragment
    cases failure <;> rfl

end WritesIn

namespace Writes

theorem nil : Writes config (pure ()) .nil :=
  fun _ _ _ => rfl

theorem append (words : String) : Writes config (Write.append words) (.text words) :=
  fun _ _ _ => rfl

theorem literal (content : String) : Writes config (Write.append (config.quote content)) (.literal content) :=
  fun _ _ _ => rfl

theorem register (name : String) : Writes config (Write.register name) (.mark (.table name)) :=
  fun _ _ _ => rfl

theorem addParameter (parameter : Parameter) :
    Writes config (Write.addParameter parameter) (.placeholder parameter) :=
  fun _ _ _ => rfl

theorem chooseLock (answer : Option LockStrategy) (chosen : LockStrategy) :
    Writes config (Write.chooseLock chosen) (.mark (.lock answer chosen)) :=
  fun _ _ _ => rfl

theorem fail (cause : Error) : Writes config (throw cause) (.fail cause) :=
  fun _ _ _ => rfl

theorem names (list : List String) : Writes config (Write.names list) (.names list) :=
  append _

theorem seq (one : Writes config first f) (two : Writes config second g) :
    Writes config (do first; second) (f ++ g) :=
  fun clause => (one clause).seq (two clause)

theorem inClause {inner : Clause} (inside : WritesIn config (some inner) action fragment) :
    Writes config (Write.inClause inner action) (.inClause inner fragment) := by
  intro _ writer _
  rw [Write.inClause, inside (writer.enter inner) rfl, Fragment.inClause, Writer.takeAll_within]
  exact congrArg (Prod.mk fragment.result) (writer.leave_takeAll_enter config inner fragment.marks)

theorem onlyIf (condition : Bool) (writes : Writes config action fragment) :
    Writes config (Write.onlyIf condition action) (.onlyIf condition fragment) := by
  cases condition with
  | true => exact writes
  | false => exact nil

theorem parens (writes : Writes config action fragment) :
    Writes config (Write.parens action) (.parens fragment) := by
  rw [Fragment.parens, Fragment.append_assoc]
  exact (append "(").seq (writes.seq (append ")"))

theorem offer {hook : Write Emission} {answer : Option Fragment} (construct : Construct)
    (answers : Answers config hook answer) (writes : Writes config usual s) :
    Writes config (Write.offer hook usual) (.offer construct answer s) :=
  fun clause => WritesIn.offer construct (answers clause) (writes clause)

/-- What is there is written, and nothing for what is not. -/
theorem ifSome {α β : Type} {related : α → β → Prop} {value : Option α} {other : Option β} {act : α → Action}
    {render : β → Fragment} (same : Option.Rel related value other)
    (each : ∀ {a b}, related a b → Writes config (act a) (render b)) :
    Writes config (Write.ifSome value act) (.ifSome other render) := by
  cases same with
  | none => exact nil
  | some pair => exact each pair

theorem ifSome_self {α : Type} {act : α → Action} {render : α → Fragment} (value : Option α)
    (each : ∀ a, Writes config (act a) (render a)) :
    Writes config (Write.ifSome value act) (.ifSome value render) := by
  cases value with
  | none => exact nil
  | some a => exact each a

theorem separated {actions : List Action} {fragments : List Fragment} (separator : String)
    (each : List.Forall₂ (Writes config) actions fragments) :
    Writes config (Write.separated separator actions) (.separated separator fragments) := by
  induction each with
  | nil => exact nil
  | cons head rest ih =>
    cases rest with
    | nil => exact head
    | cons =>
      rw [Fragment.separated, Fragment.append_assoc]
      · exact head.seq ((append separator).seq ih)
      · nofun

/-- A list in a clause of its own, if there is anything in it. -/
theorem clause {actions : List Action} {fragments : List Fragment} (inner : Clause) (keyword : String)
    (each : List.Forall₂ (Writes config) actions fragments) :
    Writes config
      (Write.onlyIf (!actions.isEmpty) (Write.inClause inner do Write.append keyword; Write.separated "," actions))
      (.onlyIf (!fragments.isEmpty) (.inClause inner (.text keyword ++ .separated "," fragments))) := by
  have same : actions.isEmpty = fragments.isEmpty := by cases each <;> rfl
  rw [same]
  exact onlyIf _ (inClause ((append keyword).seq (separated "," each) _))

end Writes

namespace Answers

theorem standard : Answers config (pure .standard) none :=
  fun _ _ _ => rfl

theorem fail (cause : Error) : Answers config (throw cause) (some (.fail cause)) :=
  fun _ _ _ => rfl

end Answers

end

end PortableSql
