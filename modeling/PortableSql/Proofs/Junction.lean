import PortableSql.Proofs.ConditionText

/-! Junctions and negations in text.

What is written for a predicate is a condition over its atoms, and the condition amounts to the
predicate without its empty parts (`Predicate.written`). The induction is on the predicate; a part of a
junction is always written so that it can stand beside any connective.
-/

set_option autoImplicit false

namespace PortableSql

-- What joined parts amount to; with no parts, what an empty conjunction or disjunction is.
def JunctionKind.join : JunctionKind → List Truth → Truth
  | .and, truths => truths.foldr Truth.and .yes
  | .or, truths => truths.foldr Truth.or .no

theorem JunctionKind.join_singleton (kind : JunctionKind) (truth : Truth) : kind.join [truth] = truth := by
  cases kind <;> simp [join]

namespace Predicate

def isAtom : Predicate → Bool
  | .junction _ _ | .negation _ => false
  | _ => true

theorem induction {motive : Predicate → Prop} (atom : ∀ p : Predicate, p.isAtom = true → motive p)
    (negation : ∀ inner, motive inner → motive (.negation inner))
    (junction : ∀ kind parts, (∀ part ∈ parts, motive part) → motive (.junction kind parts))
    (p : Predicate) : motive p :=
  match p with
  | .junction kind parts => junction kind parts fun part _ => induction atom negation junction part
  | .negation inner => negation inner (induction atom negation junction inner)
  | .comparison _ _ _ | .inList _ _ _ | .inSubquery _ _ _ | .inArray _ _ | .like _ | .nullness _ _
  | .between _ _ _ _ | .existence _ _ => atom _ rfl

mutual

def atoms : Predicate → List Predicate
  | .junction _ parts => atomsOf parts
  | .negation inner => inner.atoms
  | atom => [atom]

def atomsOf : List Predicate → List Predicate
  | [] => []
  | part :: parts => part.atoms ++ atomsOf parts

end

mutual

/-- A predicate without its empty parts, if anything is left. -/
def prune : Predicate → Option Predicate
  | .junction kind parts =>
    match pruneAll parts with
    | [] => none
    | first :: rest => some (.junction kind (first :: rest))
  | .negation inner => inner.prune.map .negation
  | atom => some atom

def pruneAll : List Predicate → List Predicate
  | [] => []
  | part :: parts => part.prune.toList ++ pruneAll parts

end

mutual

-- What a predicate amounts to, given that for its atoms.
def truth (value : Predicate → Truth) : Predicate → Truth
  | .junction kind parts => kind.join (truths value parts)
  | .negation inner => (inner.truth value).not
  | atom => value atom

def truths (value : Predicate → Truth) : List Predicate → List Truth
  | [] => []
  | part :: parts => part.truth value :: truths value parts

end

theorem atomsOf_eq_flatMap (parts : List Predicate) : atomsOf parts = parts.flatMap atoms := by
  induction parts with
  | nil => rfl
  | cons part parts ih => simp only [atomsOf, ih, List.flatMap_cons]

theorem pruneAll_eq_filterMap (parts : List Predicate) : pruneAll parts = parts.filterMap prune := by
  induction parts with
  | nil => rfl
  | cons part parts ih =>
    rw [pruneAll, ih, List.filterMap_cons]
    cases part.prune <;> rfl

theorem truths_eq_map (value : Predicate → Truth) (parts : List Predicate) :
    truths value parts = parts.map (truth value) := by
  induction parts with
  | nil => rfl
  | cons part parts ih => simp only [truths, ih, List.map_cons]

theorem prune_eq_none_iff (p : Predicate) : p.prune = none ↔ p.isEmpty = true := by
  induction p using Predicate.induction with
  | atom p isAtom => cases p <;> first | contradiction | simp [prune, isEmpty]
  | negation inner ih => simpa [prune, isEmpty] using ih
  | junction kind parts ih =>
    have nothing : prune (.junction kind parts) = none ↔ pruneAll parts = [] := by
      rw [prune]
      split <;> simp_all
    rw [nothing, pruneAll_eq_filterMap, List.filterMap_eq_nil_iff, isEmpty, allEmpty_eq_all,
      List.all_eq_true]
    exact forall₂_congr ih

theorem atoms_eq_nil_iff (p : Predicate) : p.atoms = [] ↔ p.isEmpty = true := by
  induction p using Predicate.induction with
  | atom p isAtom => cases p <;> first | contradiction | simp [atoms, isEmpty]
  | negation inner ih => exact ih
  | junction kind parts ih =>
    rw [isEmpty, allEmpty_eq_all, List.all_eq_true, atoms, atomsOf_eq_flatMap, List.flatMap_eq_nil_iff]
    exact forall₂_congr ih

theorem isEmpty_of_atoms {p : Predicate} (inhabited : p.atoms ≠ []) : p.isEmpty = false := by
  by_contra empty
  exact inhabited ((atoms_eq_nil_iff p).mpr (by simpa using empty))

end Predicate

section

variable {α E : Type} {unit : α → Fragment} {value : E → α → Truth}

theorem Means.joined (kind : JunctionKind) {fragments : List Fragment} {truths : List (E → Truth)}
    (each : List.Forall₂ (Means unit value .factor) fragments truths) (inhabited : truths ≠ []) :
    Means unit value .disjunction (.separated kind.separator fragments)
      fun e => kind.join (truths.map (· e)) := by
  cases kind with
  | and =>
    suffices whole : Means unit value .conjunction (.separated " and " fragments)
        fun e => JunctionKind.join .and (truths.map (· e)) from whole.disjunction
    induction each with
    | nil => contradiction
    | @cons fragment truth fragments truths first rest ih =>
      cases rest with
      | nil => exact first.conjunction.congr fun e => (JunctionKind.join_singleton .and _).symm
      | cons => exact first.and (ih (List.cons_ne_nil _ _))
  | or =>
    induction each with
    | nil => contradiction
    | @cons fragment truth fragments truths first rest ih =>
      cases rest with
      | nil =>
        exact first.conjunction.disjunction.congr fun e => (JunctionKind.join_singleton .or _).symm
      | cons => exact first.conjunction.or (ih (List.cons_ne_nil _ _))

namespace Predicate

variable {target : Target} {atomTruth : E → Predicate → Truth}

/-- Whether a predicate is written as a condition that amounts to what is left of it, and as one that
can stand beside any connective unless it has several parts. -/
def Written (target : Target) (unit : α → Fragment) (value : E → α → Truth)
    (atomTruth : E → Predicate → Truth) (p : Predicate) : Prop :=
  ∃ pruned, p.prune = some pruned ∧
    Means unit value .disjunction (Render.predicate target p) (fun e => pruned.truth (atomTruth e)) ∧
    (p.isSeveral = false →
      Means unit value .factor (Render.predicate target p) fun e => pruned.truth (atomTruth e))

theorem Written.of_factor {p pruned : Predicate} (left : p.prune = some pruned)
    (meant : Means unit value .factor (Render.predicate target p) fun e => pruned.truth (atomTruth e)) :
    p.Written target unit value atomTruth :=
  ⟨pruned, left, meant.conjunction.disjunction, fun _ => meant⟩

theorem parts_written {parts : List Predicate}
    (written : ∀ part ∈ parts, part.isEmpty = false → part.Written target unit value atomTruth) :
    List.Forall₂ (Means unit value .factor) (Render.junctionParts target parts)
      ((pruneAll parts).map fun pruned e => pruned.truth (atomTruth e)) := by
  induction parts with
  | nil => exact .nil
  | cons part parts ih =>
    have rest := ih fun part mem => written part (List.mem_cons_of_mem _ mem)
    rw [Render.junctionParts, pruneAll]
    cases empty : part.isEmpty with
    | true =>
      rw [Render.junctionPart, if_pos empty, (prune_eq_none_iff part).mpr empty]
      exact rest
    | false =>
      obtain ⟨pruned, left, whole, alone⟩ := written part List.mem_cons_self empty
      rw [Render.junctionPart, if_neg (by simp [empty]), left]
      split
      · exact .cons whole.parens rest
      · next several => exact .cons (alone (by simpa using several)) rest

theorem written {p : Predicate} (inhabited : p.isEmpty = false)
    (atomic : ∀ atom ∈ p.atoms,
      Means unit value .factor (Render.predicate target atom) fun e => atomTruth e atom) :
    p.Written target unit value atomTruth := by
  induction p using Predicate.induction with
  | atom p isAtom =>
    cases p with
    | junction | negation => contradiction
    | comparison | inList | inSubquery | inArray | like | nullness | between | existence =>
      exact .of_factor rfl (atomic _ List.mem_cons_self)
  | negation inner ih =>
    obtain ⟨pruned, left, whole, _⟩ := ih inhabited atomic
    have denied : (Predicate.negation inner).prune = some pruned.negation := by rw [prune, left]; rfl
    exact .of_factor denied whole.parens.not
  | junction kind parts ih =>
    have each : List.Forall₂ (Means unit value .factor) (Render.junctionParts target parts)
        ((pruneAll parts).map fun pruned e => pruned.truth (atomTruth e)) :=
      parts_written fun part mem present => ih part mem present fun atom atomMem =>
        atomic atom (by
          rw [atoms, atomsOf_eq_flatMap]
          exact List.mem_flatMap_of_mem mem atomMem)
    cases left : pruneAll parts with
    | nil =>
      have empty := (prune_eq_none_iff (.junction kind parts)).mp (by simp [prune, left])
      rw [inhabited] at empty
      contradiction
    | cons first rest =>
      rw [left] at each
      have same (e : E) :
          kind.join (((first :: rest).map fun pruned e => pruned.truth (atomTruth e)).map (· e)) =
            (Predicate.junction kind (first :: rest)).truth (atomTruth e) := by
        simp [truth, truths_eq_map, Function.comp_def]
      refine ⟨.junction kind (first :: rest), by simp [prune, left], ?_, fun single => ?_⟩
      · exact (Means.joined kind each (by simp)).congr same
      -- a junction of one part is written as that part is
      · have only : ∃ part, parts = [part] := by
          match parts with
          | [] => contradiction
          | [part] => exact ⟨part, rfl⟩
        obtain ⟨part, rfl⟩ := only
        have rest_nil : rest = [] := by
          cases pruned : part.prune <;> simp_all [pruneAll]
        subst rest_nil
        refine Means.congr ?_ same
        rw [Render.predicate]
        generalize Render.junctionParts target [part] = fragments at each
        cases each with
        | cons meant none =>
          cases none
          exact meant.congr fun e => (kind.join_singleton _).symm

theorem failure_junctionParts {parts : List Predicate}
    (each : ∀ part ∈ parts, (Render.predicate target part).failure =
      part.atoms.findSome? fun atom => (Render.predicate target atom).failure) :
    (Render.junctionParts target parts).findSome? (·.failure) =
      (atomsOf parts).findSome? fun atom => (Render.predicate target atom).failure := by
  induction parts with
  | nil => rfl
  | cons part parts ih =>
    have first := each part List.mem_cons_self
    have rest := ih fun part mem => each part (List.mem_cons_of_mem _ mem)
    rw [Render.junctionParts, atomsOf, List.findSome?_append, List.findSome?_append, ← first, rest]
    congr 1
    rw [Render.junctionPart]
    split
    · next empty => rw [first, part.atoms_eq_nil_iff.mpr empty]; rfl
    · split
      · rw [List.findSome?_singleton, Fragment.failure_parens]
      · rw [List.findSome?_singleton]

theorem failure_predicate (target : Target) (p : Predicate) :
    (Render.predicate target p).failure =
      p.atoms.findSome? fun atom => (Render.predicate target atom).failure := by
  induction p using Predicate.induction with
  | atom p isAtom =>
    have alone : p.atoms = [p] := by cases p <;> first | contradiction | rfl
    rw [alone, List.findSome?_singleton]
  | negation inner ih =>
    rw [Render.predicate, Fragment.failure_append, Fragment.failure_text, Fragment.failure_parens, ih]
    rfl
  | junction kind parts ih =>
    rw [Render.predicate, Fragment.failure_separated, failure_junctionParts ih, atoms]

end Predicate

end

namespace Session

/-- Where the atoms are tests of names and numbers, the condition is read from the characters. -/
theorem predicate_reads_text (session : Session) {p : Predicate} (inhabited : p.isEmpty = false)
    {test : Predicate → Test}
    (tests : ∀ atom ∈ p.atoms, Render.predicate session.target atom = (test atom).fragment) :
    (session.write (.predicate p)).2 = none ∧ ∃ (condition : Condition Test) (pruned : Predicate),
      Condition.ofText? (session.textOf (.predicate p)) = some condition ∧ p.prune = some pruned ∧
      ∀ value : Test → Truth, condition.truth value = pruned.truth fun atom => value (test atom) := by
  have written : p.Written session.target Test.fragment id fun value atom => value (test atom) :=
    Predicate.written inhabited fun atom mem => by
      rw [tests atom mem]
      exact Means.test (test atom)
  obtain ⟨pruned, left, meant, _⟩ := written
  obtain ⟨whole, condition, read, same⟩ := meant.ofText?
  refine ⟨whole, condition, pruned, ?_, left, same⟩
  rw [textOf_eq]
  exact read session.target.config

/-- The text of a predicate that has atoms is, with the text of each atom as a unit, the spelling of a
condition, and the condition amounts to what is left of the predicate without its empty parts. If the
atoms are tests of names and numbers, such a condition is read from the characters. -/
theorem predicate_reads (session : Session) {p : Predicate} (inhabited : p.atoms ≠ []) :
    (session.write (.predicate p)).2 =
        p.atoms.findSome? (fun atom => (session.write (.predicate atom)).2) ∧
      ∃ (tokens : List (Token {atom // atom ∈ p.atoms})) (condition : Condition {atom // atom ∈ p.atoms})
        (pruned : Predicate),
        ((session.write (.predicate p)).2 = none → session.textOf (.predicate p) =
          String.join (tokens.map (Token.words fun atom => session.textOf (.predicate atom.1)))) ∧
        WellPlaced tokens ∧ Condition.read tokens = some condition ∧ p.prune = some pruned ∧
        (∀ value : Predicate → Truth, condition.truth (fun atom => value atom.1) = pruned.truth value) ∧
        ∀ test : Predicate → Test,
          (∀ atom ∈ p.atoms, Render.predicate session.target atom = (test atom).fragment) →
            ∃ condition, Condition.ofText? (session.textOf (.predicate p)) = some condition ∧
              ∀ value : Test → Truth, condition.truth value = pruned.truth fun atom => value (test atom) := by
  refine ⟨Predicate.failure_predicate session.target p, ?_⟩
  have present : p.isEmpty = false := Predicate.isEmpty_of_atoms inhabited
  let unit (atom : {atom // atom ∈ p.atoms}) : Fragment := Render.predicate session.target atom.1
  let value (given : Predicate → Truth) (atom : {atom // atom ∈ p.atoms}) : Truth := given atom.1
  have written : p.Written session.target unit value id :=
    Predicate.written present fun atom mem => Means.test (⟨atom, mem⟩ : {atom // atom ∈ p.atoms})
  obtain ⟨pruned, left, meant, _⟩ := written
  obtain ⟨tokens, condition, fragment, placed, read, same⟩ := meant.read
  refine ⟨tokens, condition, pruned, fun whole => ?text, placed, read, left, same, fun test tests => ?characters⟩
  case text =>
    rw [write_failure, Piece.fragment, fragment] at whole
    rw [textOf_eq, Piece.fragment, fragment, Fragment.sql_ofTokens whole]
    simp only [textOf_eq]
    rfl
  case characters =>
    obtain ⟨_, condition, pruned', read, left', same⟩ := session.predicate_reads_text present tests
    obtain rfl : pruned = pruned' := Option.some.inj (left.symm.trans left')
    exact ⟨condition, read, same⟩

/-- An empty conjunction beside a negation. -/
theorem predicate_reads_denied :
    let session : Session := ⟨⟨.spanner, .spanner⟩, [], []⟩
    let column (name : String) : Expr := .column { name }
    let p : Predicate := .junction .or [.junction .and [],
      .negation (.junction .or [.nullness (column "a") false, .nullness (column "b") true])]
    p.atoms ≠ [] ∧ ∃ (tokens : List (Token {atom // atom ∈ p.atoms})) (condition : Condition _),
      WellPlaced tokens ∧ Condition.read tokens = some condition ∧
      condition.truth (fun _ => .no) = .yes ∧
      ∃ condition, Condition.ofText? (session.textOf (.predicate p)) = some condition ∧
        condition.truth (fun _ => .no) = .yes := by
  intro session column p
  have inhabited : p.atoms ≠ [] := List.cons_ne_nil _ _
  let test : Predicate → Test
    | .nullness _ false => .nullness (.column ⟨"a", by decide +kernel⟩) false
    | _ => .nullness (.column ⟨"b", by decide +kernel⟩) true
  have tests : ∀ atom ∈ p.atoms, Render.predicate session.target atom = (test atom).fragment := by
    intro atom mem
    rcases List.mem_pair.mp mem with rfl | rfl <;> rfl
  obtain ⟨_, tokens, condition, pruned, _, placed, read, left, same, text⟩ := session.predicate_reads inhabited
  obtain ⟨condition', read', same'⟩ := text test tests
  cases left
  exact ⟨inhabited, tokens, condition, placed, read, same fun _ => .no, condition', read', same' fun _ => .no⟩

end Session

end PortableSql
