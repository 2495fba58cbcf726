import PortableSql.Proofs.Junction
import PortableSql.Syntax.Build

/-! Conditions added one after the other.

Each new condition comes behind the conjuncts of what is there (`Predicate.conjuncts_conjoin`), however the
first one is made. So in the end the conditions stand in their order, and together they amount to their
conjunction (`Predicate.Gathers`).
-/

set_option autoImplicit false

namespace PortableSql

theorem Truth.yes_and (truth : Truth) : Truth.yes.and truth = truth := by
  cases truth <;> rfl

theorem JunctionKind.join_append (first second : List Truth) :
    join .and (first ++ second) = (join .and first).and (join .and second) := by
  induction first with
  | nil => exact (Truth.yes_and _).symm
  | cons truth first ih => exact (congrArg truth.and ih).trans (Truth.and_assoc ..).symm

namespace Predicate

/-- The parts of a conjunction; anything else is its own only part. -/
def conjuncts : Predicate → List Predicate
  | .junction .and parts => parts
  | p => [p]

theorem conjuncts_cases (p : Predicate) : p = .junction .and p.conjuncts ∨ p.conjuncts = [p] := by
  unfold conjuncts
  split
  · exact .inl rfl
  · exact .inr rfl

/-- A new condition comes last, whether or not what is there is a conjunction. -/
theorem conjuncts_conjoin (before p : Predicate) :
    (conjoin (some before) p).conjuncts = before.conjuncts ++ [p] := by
  cases before with
  | junction kind parts => cases kind <;> rfl
  | comparison | inList | inSubquery | inArray | like | nullness | between | existence | negation => rfl

theorem atoms_conjuncts (p : Predicate) : p.conjuncts.flatMap atoms = p.atoms := by
  rcases p.conjuncts_cases with conjunction | alone
  · rw [← atomsOf_eq_flatMap]
    exact (congrArg atoms conjunction).symm
  · rw [alone, List.flatMap_singleton]

/-- What is left of the conjuncts amounts to what is left of the predicate. -/
theorem join_conjuncts (value : Predicate → Truth) (p : Predicate) :
    JunctionKind.and.join ((p.conjuncts.filterMap prune).map (truth value)) =
      JunctionKind.and.join (p.prune.toList.map (truth value)) := by
  rcases p.conjuncts_cases with conjunction | alone
  · rw [← pruneAll_eq_filterMap]
    have pruned : p.prune = (Predicate.junction .and p.conjuncts).prune := congrArg prune conjunction
    rw [pruned, prune]
    cases pruneAll p.conjuncts with
    | nil => rfl
    | cons first rest =>
      rw [Option.toList_some, List.map_singleton, JunctionKind.join_singleton, truth, truths_eq_map]
  · rw [alone, List.filterMap_cons]
    cases p.prune <;> rfl

/-- Whether a predicate is what conditions are together: their conjunction, with the empty ones left out, and
all of their atoms in their order. -/
structure Gathers (parts : List Predicate) (whole : Predicate) : Prop where
  isEmpty : whole.isEmpty = true ↔ ∀ part ∈ parts, part.isEmpty = true
  truth : whole.isEmpty = false → ∃ pruned, whole.prune = some pruned ∧ ∀ value,
    pruned.truth value = JunctionKind.and.join ((parts.filterMap prune).map (Predicate.truth value))
  atoms : whole.atoms = parts.flatMap atoms

/-- Conjuncts that begin with those of one condition and go on with others gather them all. -/
theorem Gathers.of_conjuncts {first : Predicate} {rest : List Predicate} {whole : Predicate}
    (conjuncts : whole.conjuncts = first.conjuncts ++ rest) : Gathers (first :: rest) whole := by
  have atoms : whole.atoms = (first :: rest).flatMap Predicate.atoms := by
    rw [← atoms_conjuncts, conjuncts, List.flatMap_append, atoms_conjuncts, List.flatMap_cons]
  refine ⟨?_, fun present => ?_, atoms⟩
  · rw [← atoms_eq_nil_iff, atoms, List.flatMap_eq_nil_iff]
    exact forall₂_congr fun part _ => part.atoms_eq_nil_iff
  · cases pruned : whole.prune with
    | none =>
      rw [(prune_eq_none_iff whole).mp pruned] at present
      contradiction
    | some left =>
      refine ⟨left, rfl, fun value => ?_⟩
      -- The conjuncts of the first condition amount to the condition, so that it can take their place.
      have joined := join_conjuncts value whole
      rw [pruned, Option.toList_some, List.map_singleton, JunctionKind.join_singleton, conjuncts,
        List.filterMap_append, List.map_append, JunctionKind.join_append, join_conjuncts,
        ← JunctionKind.join_append, ← List.map_append] at joined
      rw [← joined, List.filterMap_cons]
      cases first.prune <;> rfl

/-- Conditions that are added to what is there, one after the other. -/
def accumulate (before : Option Predicate) (parts : List Predicate) : Option Predicate :=
  parts.foldl (fun before part => some (conjoin before part)) before

theorem conjuncts_accumulate (first : Predicate) (rest : List Predicate) :
    ∃ whole, accumulate (some first) rest = some whole ∧ whole.conjuncts = first.conjuncts ++ rest := by
  induction rest generalizing first with
  | nil => exact ⟨first, rfl, (List.append_nil _).symm⟩
  | cons part rest ih =>
    obtain ⟨whole, same, conjuncts⟩ := ih (conjoin (some first) part)
    refine ⟨whole, same, ?_⟩
    rw [conjuncts, conjuncts_conjoin, List.append_assoc, List.singleton_append]

end Predicate

/-- A place for a condition in a statement, to which conditions may be added. -/
structure ConditionPlace (α : Type) where
  add : α → Predicate → α
  get : α → Option Predicate
  put : α → Option Predicate → α
  add_eq (a : α) (part : Predicate) : add a part = put a (some (.conjoin (get a) part))
  get_put (a : α) (condition : Option Predicate) : get (put a condition) = condition
  put_put (a : α) (before condition : Option Predicate) : put (put a before) condition = put a condition

namespace ConditionPlace

def queryRestriction : ConditionPlace Query where
  add := Query.filter
  get := Query.restriction
  put query restriction := { query with restriction }
  add_eq _ _ := rfl
  get_put _ _ := rfl
  put_put _ _ _ := rfl

def having : ConditionPlace Query where
  add := Query.filterGroups
  get := Query.having
  put query having := { query with having }
  add_eq _ _ := rfl
  get_put _ _ := rfl
  put_put _ _ _ := rfl

def updateRestriction : ConditionPlace Update where
  add := Update.filter
  get := Update.restriction
  put update restriction := { update with restriction }
  add_eq _ _ := rfl
  get_put _ _ := rfl
  put_put _ _ _ := rfl

def deleteRestriction : ConditionPlace Delete where
  add := Delete.filter
  get := Delete.restriction
  put delete restriction := { delete with restriction }
  add_eq _ _ := rfl
  get_put _ _ := rfl
  put_put _ _ _ := rfl

variable {α : Type} (place : ConditionPlace α)

theorem foldl_add_put (a : α) (before : Option Predicate) (parts : List Predicate) :
    parts.foldl place.add (place.put a before) = place.put a (Predicate.accumulate before parts) := by
  induction parts generalizing before with
  | nil => rfl
  | cons part parts ih =>
    rw [List.foldl_cons, place.add_eq, place.get_put, place.put_put, ih]
    rfl

/-- Where there is no condition, those that are added change nothing but the place for it. -/
theorem foldl_add {a : α} (without : place.get a = none) (first : Predicate) (rest : List Predicate) :
    (first :: rest).foldl place.add a = place.put a (Predicate.accumulate none (first :: rest)) := by
  rw [List.foldl_cons, place.add_eq, without, foldl_add_put]
  rfl

end ConditionPlace

/-- Conditions that are added to a statement without one accumulate as their conjunction, and nothing else of
the statement changes. -/
theorem Predicate.filters_gather (first : Predicate) (rest : List Predicate) :
    ∃ whole, Gathers (first :: rest) whole ∧
      (∀ query : Query, query.restriction = none →
        (first :: rest).foldl Query.filter query = { query with restriction := some whole }) ∧
      (∀ query : Query, query.having = none →
        (first :: rest).foldl Query.filterGroups query = { query with having := some whole }) ∧
      (∀ update : Update, update.restriction = none →
        (first :: rest).foldl Update.filter update = { update with restriction := some whole }) ∧
      ∀ delete : Delete, delete.restriction = none →
        (first :: rest).foldl Delete.filter delete = { delete with restriction := some whole } := by
  obtain ⟨whole, accumulated, conjuncts⟩ := conjuncts_accumulate first rest
  have added {α : Type} (place : ConditionPlace α) {a : α} (without : place.get a = none) :
      (first :: rest).foldl place.add a = place.put a (some whole) :=
    (place.foldl_add without first rest).trans (congrArg (place.put a) accumulated)
  exact ⟨whole, .of_conjuncts conjuncts, fun _ => added .queryRestriction, fun _ => added .having,
    fun _ => added .updateRestriction, fun _ => added .deleteRestriction⟩

end PortableSql
