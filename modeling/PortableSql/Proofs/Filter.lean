import PortableSql.Proofs.Added

/-! Fragments with some of their marks left out.

To leave marks out commutes with every way of putting fragments together, as far as texts stay. The rendering
stays the same if what is left out has neither text nor parameters nor tables and does not decide on locks.
-/

set_option autoImplicit false

namespace PortableSql

section

variable {config : Config} {chosen : Mark → Bool}

theorem Mark.sqlText_filter (silent : ∀ mark, chosen mark = false → mark.sql config = "") (marks : List Mark) :
    sqlText config (marks.filter chosen) = sqlText config marks := by
  induction marks with
  | nil => rfl
  | cons mark marks ih =>
    have text (rest : List Mark) : sqlText config (mark :: rest) = mark.sql config ++ sqlText config rest :=
      String.join_cons
    cases keep : chosen mark with
    | true => rw [List.filter_cons_of_pos keep, text, text, ih]
    | false =>
      rw [List.filter_cons_of_neg (by rw [keep]; exact Bool.false_ne_true), ih, text, silent mark keep,
        String.empty_append]

theorem Rendering.ofMarks_filter (text : ∀ mark, chosen mark = false → mark.sql config = "")
    (parameter : ∀ mark, chosen mark = false → mark.parameter? = none)
    (table : ∀ mark, chosen mark = false → mark.table? = none) {marks : List Mark}
    (lock : Mark.lockStrategy (marks.filter chosen) = Mark.lockStrategy marks) :
    ofMarks config (marks.filter chosen) = ofMarks config marks := by
  simp only [ofMarks, Mark.sqlText_filter text, Mark.bindings, Mark.parameters, Mark.tables, lock,
    Mark.filterMap_filter parameter, Mark.filterMap_filter table]

end

namespace Fragment

/-- A fragment with the chosen ones of its marks. -/
def filter (chosen : Mark → Bool) (fragment : Fragment) : Fragment :=
  ⟨fragment.marks.filter chosen, fragment.failure⟩

variable {chosen : Mark → Bool}

theorem filter_append (first second : Fragment) :
    (first ++ second).filter chosen = first.filter chosen ++ second.filter chosen := by
  obtain ⟨marks, failure⟩ := first
  cases failure with
  | some cause => rfl
  | none => exact congrArg (Fragment.mk · second.failure) (List.filter_append ..)

theorem filter_onlyIf (condition : Bool) (fragment : Fragment) :
    (onlyIf condition fragment).filter chosen = onlyIf condition (fragment.filter chosen) := by
  cases condition <;> rfl

theorem filter_ifSome {α : Type} (value : Option α) (render : α → Fragment) :
    (ifSome value render).filter chosen = ifSome value fun a => (render a).filter chosen := by
  cases value <;> rfl

section

variable (texts : ∀ words, chosen (.text words) = true)

include texts

theorem filter_text (words : String) : (text words).filter chosen = text words :=
  congrArg (Fragment.mk · none) (List.filter_cons_of_pos (texts words))

theorem filter_parens (fragment : Fragment) : (parens fragment).filter chosen = parens (fragment.filter chosen) := by
  simp only [parens, filter_append, filter_text texts]

theorem filter_separated (separator : String) (fragments : List Fragment) :
    (separated separator fragments).filter chosen = separated separator (fragments.map (filter chosen)) := by
  induction fragments with
  | nil => rfl
  | cons first rest ih =>
    cases rest with
    | nil => rfl
    | cons second rest => simp only [separated, filter_append, filter_text texts, List.map_cons] at ih ⊢; rw [ih]

end

end Fragment

end PortableSql
