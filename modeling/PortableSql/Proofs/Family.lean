import PortableSql.Proofs.Revision
import PortableSql.Proofs.Traversal

/-! Fragments that depend on the contents of literals.

A statement stands for all statements that differ from it in the contents of their string literals, and
what a node adds is a family of fragments, one for each choice of contents. Families are put together
from few kinds of pieces (`Composes`). Which pieces may meet is kept track of at their edges: no piece
stands right after a literal unless it begins with a word of the renderer.
-/

set_option autoImplicit false

namespace PortableSql

/-- A choice of contents: for each string literal, by its path and the content it has. -/
abbrev Contents := Path → String → String

namespace Contents

/-- The choice that keeps what is there. -/
def own : Contents := fun _ text => text

def below (contents : Contents) (branch : Nat) : Contents := fun path => contents (branch :: path)

def revision (contents : Contents) : Revision := { content := contents }

@[simp] theorem revision_below (contents : Contents) (branch : Nat) :
    contents.revision.below branch = (contents.below branch).revision := rfl

@[simp] theorem revision_sparing (contents : Contents) : contents.revision.sparing = own.revision := rfl

@[simp] theorem keepsLocks_revision (contents : Contents) : contents.revision.keepsLocks = true := rfl

@[simp] theorem reviseCondition_revision (contents : Contents) (restriction : Option Predicate) :
    reviseCondition contents.revision restriction = restriction.map (Predicate.revise contents.revision) :=
  reviseCondition_eq_map (fun _ => rfl) restriction

theorem restricts_revision (contents : Contents) (restriction : Option Predicate) :
    Predicate.restricts (reviseCondition contents.revision restriction) = Predicate.restricts restriction :=
  Predicate.restricts_revise (fun _ _ => rfl) restriction

end Contents

/-- A fragment for each choice of contents. -/
abbrev Family := Contents → Fragment

def isWordChar (c : Char) : Bool :=
  c.isAlphanum || " ,.()=<>*".toList.contains c

/-- What the renderer writes of its own, signs of arithmetic apart: texts without quotes, placeholders
and line breaks. -/
def IsWord (words : String) : Prop :=
  words ≠ "" ∧ words.toList.all isWordChar = true

instance (words : String) : Decidable (IsWord words) :=
  inferInstanceAs (Decidable (_ ∧ _))

/-- A character that stands in no text and not in what separates them does not stand in the list. -/
theorem not_mem_intercalate {c : Char} {separator : String} {texts : List String}
    (apart : c ∉ separator.toList) (absent : ∀ text ∈ texts, c ∉ text.toList) :
    c ∉ (String.intercalate separator texts).toList := by
  induction texts with
  | nil => exact List.not_mem_nil
  | cons first texts ih =>
    obtain ⟨own, others⟩ := List.forall_mem_cons.mp absent
    cases texts with
    | nil =>
      rw [String.intercalate_singleton]
      exact own
    | cons second texts =>
      rw [String.intercalate_cons_cons]
      simpa only [String.toList_append, List.mem_append, not_or] using ⟨⟨own, apart⟩, ih others⟩

/-- What holds of the pieces of a statement and is kept when they are put together. A family comes
after something that may end with a literal, or after something that does not; and so may what comes
after it. What is not written by the renderer has to be admitted: names, the contents of string
literals, and the right operands of arithmetic. -/
structure Composes (config : Config) (Name Content : String → Prop) (Takes : ArithmeticOp → Family → Prop)
    (P : Bool → Family → Bool → Prop) : Prop where
  nil (edge : Bool) : P edge (fun _ => .nil) edge
  append {first second : Family} {before between after : Bool} : P before first between →
    P between second after → P before (fun contents => first contents ++ second contents) after
  weaken {family : Family} {before before' after after' : Bool} : P before family after →
    before' ≤ before → after ≤ after' → P before' family after'
  word {words : String} : IsWord words → P true (fun _ => .text words) false
  empty (edge : Bool) : P edge (fun _ => .text "") edge
  name {name : String} (edge : Bool) : Name name → P edge (fun _ => .text name) edge
  names {names : List String} (edge : Bool) : (∀ name ∈ names, Name name) →
    P edge (fun _ => .names names) edge
  -- A value that is not a string.
  value (value : Value) : (∀ text, value ≠ .string text) → P true (fun _ => value.fragment config) true
  -- The constant that groups everything.
  bucket : P false (fun _ => .text "'0' || '0'") true
  literal {content : String} : Content content → P false (fun _ => .literal content) true
  slot {text : String} : Content text → P false (fun contents => .literal (contents [] text)) true
  -- A pattern written for another escape.
  backslashed {text : String} (escape : Char) : Content text →
    Content (String.ofList (Pattern.backslashed escape text.toList))
  operation {l r : Family} (op : ArithmeticOp) : P false l true → P false r true → Takes op r →
    P true (fun contents => .parens (l contents ++ .text op.text ++ r contents)) false
  placeholder (parameter : Parameter) : P true (fun _ => .placeholder parameter) false
  table (edge : Bool) (name : String) : P edge (fun _ => .mark (.table name)) edge
  lock (edge : Bool) (answer : Option LockStrategy) (chosen : LockStrategy) :
    P edge (fun _ => .mark (.lock answer chosen)) edge
  fail (cause : Error) : P true (fun _ => .fail cause) false
  inClause {family : Family} {before after : Bool} (clause : Clause) : P before family after →
    P before (fun contents => .inClause clause (family contents)) after
  offered {family : Family} {before after : Bool} (construct : Construct) : P before family after →
    P before (fun contents =>
      .mark (.offer construct none (Fragment.outcome (some (family contents)))) ++ family contents) after
  standard {family : Family} {before after : Bool} (construct : Construct) : P before family after →
    P before (fun contents => .mark (.offer construct none .standard) ++ family contents) after
  below {family : Family} {before after : Bool} (branch : Nat) : P before family after →
    P before (fun contents => family (contents.below branch)) after
  own {family : Family} {before after : Bool} : P before family after →
    P before (fun _ => family .own) after

/-- A list of families, all of a kind: its length does not depend on the contents. -/
def Each {α : Type} (Q : (Contents → α) → Prop) (list : Contents → List α) : Prop :=
  ∃ members : List (Contents → α),
    list = (fun contents => members.map fun member => member contents) ∧ ∀ member ∈ members, Q member

/-- A family that is there for all contents or for none. -/
def Perhaps {α : Type} (Q : (Contents → α) → Prop) (value : Contents → Option α) : Prop :=
  value = (fun _ => none) ∨ ∃ family, value = (fun contents => some (family contents)) ∧ Q family

namespace Perhaps

variable {α : Type} {Q : (Contents → α) → Prop} {value : Contents → Option α}

theorem isSome (there : Perhaps Q value) : ∃ flag, ∀ contents, (value contents).isSome = flag := by
  rcases there with rfl | ⟨family, rfl, _⟩
  · exact ⟨false, fun _ => rfl⟩
  · exact ⟨true, fun _ => rfl⟩

theorem along {change : Contents → Contents}
    (closed : ∀ family, Q family → Q fun contents => family (change contents)) (there : Perhaps Q value) :
    Perhaps Q fun contents => value (change contents) := by
  rcases there with rfl | ⟨family, rfl, kind⟩
  · exact .inl rfl
  · exact .inr ⟨_, rfl, closed family kind⟩

end Perhaps

namespace Each

variable {α β : Type} {Q : (Contents → β) → Prop}

theorem nil : Each Q fun _ => [] :=
  ⟨[], rfl, nofun⟩

theorem cons {head : Contents → β} {rest : Contents → List β} (first : Q head) (others : Each Q rest) :
    Each Q fun contents => head contents :: rest contents := by
  obtain ⟨members, rfl, kind⟩ := others
  exact ⟨head :: members, rfl, List.forall_mem_cons.mpr ⟨first, kind⟩⟩

theorem append {first second : Contents → List β} (left : Each Q first) (right : Each Q second) :
    Each Q fun contents => first contents ++ second contents := by
  obtain ⟨lefts, rfl, kind⟩ := left
  obtain ⟨rights, rfl, kind'⟩ := right
  refine ⟨lefts ++ rights, ?_, List.forall_mem_append.mpr ⟨kind, kind'⟩⟩
  funext contents
  exact (List.map_append ..).symm

theorem isEmpty {list : Contents → List β} (each : Each Q list) :
    ∃ flag, ∀ contents, (list contents).isEmpty = flag := by
  obtain ⟨members, rfl, _⟩ := each
  exact ⟨members.isEmpty, fun _ => List.isEmpty_map⟩

/-- The members of a list, all for contents that a change makes of the given ones. -/
theorem along {list : Contents → List β} {change : Contents → Contents}
    (closed : ∀ family, Q family → Q fun contents => family (change contents)) (each : Each Q list) :
    Each Q fun contents => list (change contents) := by
  obtain ⟨members, rfl, kind⟩ := each
  refine ⟨members.map fun member contents => member (change contents), ?_, ?_⟩
  · funext contents
    rw [List.map_map]
    rfl
  · exact List.forall_mem_map.mpr fun member mem => closed member (kind member mem)

theorem below {list : Contents → List β}
    (closed : ∀ branch family, Q family → Q fun contents => family (contents.below branch))
    (branch : Nat) (each : Each Q list) : Each Q fun contents => list (contents.below branch) :=
  each.along (closed branch)

/-- A list that does not depend on the contents. -/
theorem fixed {list : List β} (kind : ∀ b ∈ list, Q fun _ => b) : Each Q fun _ => list := by
  refine ⟨list.map fun b _ => b, ?_, List.forall_mem_map.mpr kind⟩
  simp only [List.map_map, Function.comp_def, List.map_id']

/-- The elements of a revised list, rendered one by one. -/
theorem flatMap_each {revise : Revision → α → α} {render : α → List β} {elements : List α}
    (closed : ∀ branch family, Q family → Q fun contents => family (contents.below branch))
    (kind : ∀ a ∈ elements, Each Q fun contents => render (revise contents.revision a)) :
    Each Q fun contents => (contents.revision.each revise elements).flatMap render := by
  induction elements with
  | nil => exact nil
  | cons a rest ih =>
    have head := (kind a List.mem_cons_self).below closed 0
    have tail := (ih fun b mem => kind b (List.mem_cons_of_mem _ mem)).below closed 1
    exact head.append tail

theorem map_each {revise : Revision → α → α} {render : α → β} {elements : List α}
    (closed : ∀ branch family, Q family → Q fun contents => family (contents.below branch))
    (kind : ∀ a ∈ elements, Q fun contents => render (revise contents.revision a)) :
    Each Q fun contents => (contents.revision.each revise elements).map render := by
  have one : Each Q fun contents => (contents.revision.each revise elements).flatMap fun a => [render a] :=
    flatMap_each closed fun a mem => cons (kind a mem) nil
  simpa only [← List.map_eq_flatMap] using one

end Each

/-- What holds of a family between words: it may begin and end with a literal. -/
abbrev Inside (P : Bool → Family → Bool → Prop) (family : Family) : Prop :=
  P false family true

namespace Composes

variable {config : Config} {Name Content : String → Prop} {Takes : ArithmeticOp → Family → Prop}
  {P : Bool → Family → Bool → Prop} (rules : Composes config Name Content Takes P)
  {family first second : Family} {before after : Bool}

include rules

/-- Every family may be taken for one that must not stand after a literal and may end with one. -/
theorem loose (piece : P before family after) : P false family true :=
  rules.weaken piece (Bool.false_le before) (Bool.le_true after)

/-- Every family may be taken for one that may end with a literal. -/
theorem closed (piece : P before family after) : P before family true :=
  rules.weaken piece (Bool.le_refl before) (Bool.le_true after)

/-- What may stand after a literal may stand anywhere. -/
theorem anywhere (edge : Bool) (piece : P true family after) : P edge family after :=
  rules.weaken piece (Bool.le_true edge) (Bool.le_refl after)

theorem writes (words : String) (word : IsWord words) : P true (fun _ => .text words) false :=
  rules.word word

theorem words (edge : Bool) {words : String} (word : IsWord words) : P edge (fun _ => .text words) edge :=
  rules.weaken (rules.word word) (Bool.le_true edge) (Bool.false_le edge)

theorem parens (inner : P false family true) : P true (fun contents => .parens (family contents)) false :=
  rules.append (rules.append (rules.word (by decide)) inner) (rules.word (by decide))

theorem separated {separator : String} {list : Contents → List Fragment} (word : IsWord separator)
    (each : Each (Inside P) list) :
    P false (fun contents => .separated separator (list contents)) true := by
  obtain ⟨members, rfl, kind⟩ := each
  induction members with
  | nil => exact rules.loose (rules.nil false)
  | cons head rest ih =>
    have own := kind head List.mem_cons_self
    cases rest with
    | nil => exact own
    | cons next rest =>
      exact rules.append (rules.append own (rules.word word))
        (ih fun member mem => kind member (List.mem_cons_of_mem _ mem))

theorem onlyIf (condition : Bool) (le : before ≤ after) (piece : P before family after) :
    P before (fun contents => .onlyIf condition (family contents)) after := by
  cases condition with
  | true => exact piece
  | false => exact rules.weaken (rules.nil before) (Bool.le_refl before) le

theorem ifSome {α : Type} {value : Option α} {render : Contents → α → Fragment} (le : before ≤ after)
    (piece : ∀ a ∈ value, P before (fun contents => render contents a) after) :
    P before (fun contents => .ifSome value (render contents)) after := by
  cases value with
  | none => exact rules.weaken (rules.nil before) (Bool.le_refl before) le
  | some a => exact piece a rfl

/-- A family that is there for all contents or for none, inside something that is written if it is. -/
theorem perhaps {value : Contents → Option Fragment} {render : Fragment → Fragment} (le : before ≤ after)
    (there : Perhaps (Inside P) value)
    (piece : ∀ family, P false family true → P before (fun contents => render (family contents)) after) :
    P before (fun contents => .ifSome (value contents) render) after := by
  rcases there with rfl | ⟨family, rfl, kind⟩
  · exact rules.weaken (rules.nil before) (Bool.le_refl before) le
  · exact piece family kind

theorem offer_some (construct : Construct) {answer standard : Family} (piece : P before answer after) :
    P before (fun contents => .offer construct (some (answer contents)) (standard contents)) after :=
  rules.offered construct piece

theorem offer_none (construct : Construct) {standard : Family} (piece : P before standard after) :
    P before (fun contents => .offer construct none (standard contents)) after :=
  rules.standard construct piece

theorem unlessEmpty {Q : (Contents → Fragment) → Prop} {list : Contents → List Fragment} {family : Family}
    (each : Each Q list) (piece : P true family true) :
    P true (fun contents => .onlyIf (!(list contents).isEmpty) (family contents)) true := by
  obtain ⟨flag, same⟩ := each.isEmpty
  simp only [same]
  exact rules.onlyIf _ (Bool.le_refl true) piece

theorem listed {keyword separator : String} {list : Contents → List Fragment} (start : IsWord keyword)
    (word : IsWord separator) (each : Each (Inside P) list) :
    P true (fun contents => .text keyword ++ .separated separator (list contents)) true :=
  rules.append (rules.word start) (rules.separated word each)

/-- A list in a clause of its own, if it has elements. -/
theorem clause {clause : Clause} {keyword separator : String} {list : Contents → List Fragment}
    (start : IsWord keyword) (word : IsWord separator)
    (each : Each (Inside P) list) :
    P true (fun contents => .onlyIf (!(list contents).isEmpty)
      (.inClause clause (.text keyword ++ .separated separator (list contents)))) true :=
  rules.unlessEmpty each (rules.inClause clause (rules.listed start word each))

end Composes

end PortableSql
