import PortableSql.Proofs.MarkView
import PortableSql.Proofs.Writing

/-! What a writer holds after marks.

The text grows by the text of the marks, the bindings by their parameters with the next numbers and the tables
by their tables, and of the choices of a lock strategy the last one stands (`Writer.gains_takeAll`). For an
empty writer that is what the marks amount to as a rendering (`Writer.finish_takeAll`).
-/

set_option autoImplicit false

namespace PortableSql

/-- What is added to a writer, wherever that is done. -/
structure Gain where
  text : String
  parameters : List Parameter
  tables : List String
  -- The lock strategy that is chosen, if there is a choice.
  lock : Option LockStrategy

def Gain.ofMarks (config : Config) (marks : List Mark) : Gain where
  text := Mark.sqlText config marks
  parameters := Mark.parameters marks
  tables := marks.filterMap Mark.table?
  lock := (marks.filterMap Mark.lockStrategy?).getLast?

namespace Writer

/-- Whether a writer gains this: the text at its end, the parameters with the next numbers, the tables, and the
lock strategy if one is chosen. The clauses stay as they were. -/
structure Gains (before : Writer) (gain : Gain) (after : Writer) : Prop where
  clauses : after.clauses = before.clauses
  text : after.text = before.text ++ gain.text
  bindings : after.bindings = before.bindings ++ Binding.numbered before.bindings.length gain.parameters
  tables : after.tables = gain.tables.foldl NameSet.add before.tables
  lock : after.lock = gain.lock.getD before.lock

variable (config : Config) (writer : Writer) (marks : List Mark)

theorem text_takeAll : (writer.takeAll config marks).text = writer.text ++ Mark.sqlText config marks := by
  induction marks generalizing writer with
  | nil => exact String.append_empty.symm
  | cons mark marks ih =>
    have step : (writer.take config mark).text = writer.text ++ mark.sql config := by
      cases mark with
      | text | literal | placeholder => rfl
      | table | lock | offer => exact String.append_empty.symm
    have text : Mark.sqlText config (mark :: marks) = mark.sql config ++ Mark.sqlText config marks :=
      String.join_cons
    rw [text, ← String.append_assoc, ← step]
    exact ih _

theorem bindings_takeAll :
    (writer.takeAll config marks).bindings =
      writer.bindings ++ Binding.numbered writer.bindings.length (Mark.parameters marks) := by
  induction marks generalizing writer with
  | nil => exact (List.append_nil _).symm
  | cons mark marks ih =>
    have step : (writer.take config mark).bindings =
        writer.bindings ++ Binding.numbered writer.bindings.length mark.parameter?.toList := by
      cases mark with
      | placeholder => rfl
      | text | literal | table | lock | offer => exact (List.append_nil _).symm
    have length : (Binding.numbered writer.bindings.length mark.parameter?.toList).length =
        mark.parameter?.toList.length := Binding.length_numbered _ _
    rw [Mark.parameters_cons, Binding.numbered_append, ← List.append_assoc, ← step, ← length, ← List.length_append,
      ← step]
    exact ih _

theorem tables_takeAll :
    (writer.takeAll config marks).tables = (marks.filterMap Mark.table?).foldl NameSet.add writer.tables := by
  induction marks generalizing writer with
  | nil => rfl
  | cons mark marks ih => cases mark <;> exact ih _

theorem lock_takeAll :
    (writer.takeAll config marks).lock = (marks.filterMap Mark.lockStrategy?).getLast?.getD writer.lock := by
  induction marks generalizing writer with
  | nil => rfl
  | cons mark marks ih =>
    cases mark with
    | lock answer chosen =>
      have last : (Mark.lock answer chosen :: marks).filterMap Mark.lockStrategy? =
          chosen :: marks.filterMap Mark.lockStrategy? := rfl
      rw [last, List.getLast?_cons]
      exact ih _
    | text | literal | placeholder | table | offer => exact ih _

theorem gains_takeAll : writer.Gains (.ofMarks config marks) (writer.takeAll config marks) where
  clauses := clauses_takeAll config writer marks
  text := text_takeAll config writer marks
  bindings := bindings_takeAll config writer marks
  tables := tables_takeAll config writer marks
  lock := lock_takeAll config writer marks

theorem addedText_takeAll : writer.addedText (writer.takeAll config marks) = Mark.sqlText config marks := by
  rw [addedText, text_takeAll, String.toList_append, List.drop_left, String.ofList_toList]

/-- Marks amount to what an empty writer makes of them, whatever clauses it is in. -/
theorem finish_takeAll (clauses : List Clause) :
    (({ clauses } : Writer).takeAll config marks).finish = .ofMarks config marks := by
  rw [finish, text_takeAll, bindings_takeAll, tables_takeAll, lock_takeAll, String.empty_append, List.nil_append]
  rfl

end Writer

end PortableSql
