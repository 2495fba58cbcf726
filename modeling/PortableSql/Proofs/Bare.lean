import PortableSql.Proofs.Failure
import PortableSql.Proofs.Filter
import PortableSql.Proofs.Traversal

/-! Fragments without the notes of what was offered to a dialect.

Offers leave no trace in a rendering, so that fragments that are the same without them give the same
rendering (`Fragment.rendering_bare`). To leave them out commutes with every way of putting fragments
together, and clauses, which only offers tell apart, disappear with them.
-/

set_option autoImplicit false

namespace PortableSql

def Mark.isOffer : Mark → Bool
  | .offer _ _ _ => true
  | _ => false

theorem Rendering.ofMarks_bare (config : Config) (marks : List Mark) :
    ofMarks config (marks.filter (!·.isOffer)) = ofMarks config marks := by
  have silent {α : Type} {default : α} (view : Mark → α)
      (blind : ∀ construct clause outcome, view (.offer construct clause outcome) = default) :
      ∀ mark : Mark, (!mark.isOffer) = false → view mark = default := by
    intro mark offer
    cases mark with
    | offer construct clause outcome => exact blind construct clause outcome
    | text | literal | placeholder | table | lock => contradiction
  have locks := Mark.filterMap_filter (silent Mark.lockStrategy? fun _ _ _ => rfl) marks
  refine ofMarks_filter (silent (Mark.sql config) fun _ _ _ => rfl) (silent Mark.parameter? fun _ _ _ => rfl)
    (silent Mark.table? fun _ _ _ => rfl) ?_
  rw [Mark.lockStrategy, locks, ← Mark.lockStrategy]

namespace Fragment

/-- A fragment without its offers. -/
def bare (fragment : Fragment) : Fragment :=
  ⟨fragment.marks.filter (!·.isOffer), fragment.failure⟩

theorem rendering_bare (config : Config) (fragment : Fragment) :
    fragment.bare.rendering config = fragment.rendering config := by
  simp only [rendering, bare, Rendering.ofMarks_bare]

@[simp] theorem bare_nil : nil.bare = nil := rfl

@[simp] theorem bare_text (words : String) : (text words).bare = text words := rfl

@[simp] theorem bare_append (first second : Fragment) : (first ++ second).bare = first.bare ++ second.bare :=
  filter_append first second

@[simp] theorem bare_parens (fragment : Fragment) : (parens fragment).bare = parens fragment.bare :=
  filter_parens (fun _ => rfl) fragment

@[simp] theorem bare_onlyIf (condition : Bool) (fragment : Fragment) :
    (onlyIf condition fragment).bare = onlyIf condition fragment.bare :=
  filter_onlyIf condition fragment

@[simp] theorem bare_ifSome {α : Type} (value : Option α) (render : α → Fragment) :
    (ifSome value render).bare = ifSome value fun a => (render a).bare :=
  filter_ifSome value render

@[simp] theorem bare_separated (separator : String) (fragments : List Fragment) :
    (separated separator fragments).bare = separated separator (fragments.map bare) :=
  filter_separated (fun _ => rfl) separator fragments

/-- A clause is only of interest to offers. -/
@[simp] theorem bare_inClause (clause : Clause) (fragment : Fragment) :
    (inClause clause fragment).bare = fragment.bare :=
  congrArg (Fragment.mk · fragment.failure) (Mark.filter_within (fun _ _ _ => rfl) clause fragment.marks)

@[simp] theorem bare_offer (construct : Construct) (answer : Option Fragment) (standard : Fragment) :
    (offer construct answer standard).bare = (answer.getD standard).bare := by
  rw [offer, bare_append]
  rfl

end Fragment

end PortableSql
