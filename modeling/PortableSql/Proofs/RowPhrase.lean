import PortableSql.Proofs.Phrase
import PortableSql.Proofs.Truth

/-! Comparisons of rows as phrases.

Each element of a row is to be a phrase, and so is the comparison of two rows by their elements. It mentions
what the elements do, some of them twice.
-/

set_option autoImplicit false

namespace PortableSql.Spanner.Phrase

variable {config : Config} {Name : String → Prop} {before : Joint} {left right : Fragment}
  {mentions mentions' : List Mark} {op : ComparisonOp}

theorem compare (comparable : op.isDistinctness = false) (l : Phrase config Name before left mentions .tight)
    (r : Phrase config Name .distinct right mentions' .tight) :
    Phrase config Name before (RowValue.compare left op right) (mentions ++ mentions') .tight := by
  have sign : Joint.tight.Spells op.spacedText .loose := by
    cases op <;> first | contradiction | decide
  exact (l.ahead sign).append r.loosen

section

variable {ι : Type} {element : ι → Fragment} {of : ι → List Mark} {ls rs : List ι}

theorem pairwise (comparable : op.isDistinctness = false) {separator : String}
    (spells : Joint.tight.Spells separator .loose) (same : ls.length = rs.length) (inhabited : ls ≠ [])
    (l : ∀ i ∈ ls, Phrase config Name .distinct (element i) (of i) .tight)
    (r : ∀ i ∈ rs, Phrase config Name .distinct (element i) (of i) .tight) :
    Phrase config Name .loose (.separated separator (RowValue.pairwise op (ls.map element) (rs.map element)))
      (ls.flatMap of ++ rs.flatMap of) .tight := by
  induction ls, rs, same, inhabited using Row.induction with
  | single first second =>
    exact ((compare comparable (l _ List.mem_cons_self) (r _ List.mem_cons_self)).loosen).congr (by simp)
  | more first second first' second' ls rs same ih =>
    obtain ⟨head, l⟩ := List.forall_mem_cons.mp l
    obtain ⟨head', r⟩ := List.forall_mem_cons.mp r
    refine ((((compare comparable head head').loosen).ahead spells).append (ih l r)).congr fun mark => ?_
    simp only [List.flatMap_cons, List.mem_append]
    grind

theorem lexicographic (comparable : op.isDistinctness = false) (same : ls.length = rs.length)
    (inhabited : ls ≠ []) (l : ∀ i ∈ ls, Phrase config Name .distinct (element i) (of i) .tight)
    (r : ∀ i ∈ rs, Phrase config Name .distinct (element i) (of i) .tight) :
    Phrase config Name .loose (RowValue.lexicographic op true (ls.map element) (rs.map element))
      (ls.flatMap of ++ rs.flatMap of) .tight := by
  induction ls, rs, same, inhabited using Row.induction with
  | single first second =>
    exact ((compare comparable (l _ List.mem_cons_self) (r _ List.mem_cons_self)).loosen).congr (by simp)
  | more first second first' second' ls rs same ih =>
    obtain ⟨head, l⟩ := List.forall_mem_cons.mp l
    obtain ⟨head', r⟩ := List.forall_mem_cons.mp r
    have rest := ih l r
    have level (other : ComparisonOp) (comparable : other.isDistinctness = false) :=
      (compare comparable head head').loosen
    have strict := level op.strict (by cases op <;> first | contradiction | rfl)
    have inclusive := level op.inclusive (by cases op <;> first | contradiction | rfl)
    refine ((inclusive.ahead (by decide)).append
      (((strict.ahead (by decide)).append rest).parens .loose)).congr fun mark => ?_
    simp only [List.flatMap_cons, List.mem_append]
    grind

theorem expand (comparable : op.isDistinctness = false)
    (l : ∀ i ∈ ls, Phrase config Name .distinct (element i) (of i) .tight)
    (r : ∀ i ∈ rs, Phrase config Name .distinct (element i) (of i) .tight) :
    Phrase config Name .loose (RowValue.expand true (ls.map element) (rs.map element) op)
      (ls.flatMap of ++ rs.flatMap of) .tight := by
  simp only [RowValue.expand, List.length_map]
  split
  · exact .fail _ _
  · next same =>
    have same : ls.length = rs.length := not_not.mp same
    cases ls with
    | nil =>
      obtain rfl := List.length_eq_zero_iff.mp same.symm
      exact .fail _ _
    | cons first ls =>
      obtain ⟨second, rs, rfl⟩ := List.exists_cons_of_length_eq_add_one same.symm
      cases ls with
      | nil =>
        obtain rfl := List.length_eq_zero_iff.mp (Nat.succ.inj same.symm)
        exact ((compare comparable (l _ List.mem_cons_self) (r _ List.mem_cons_self)).loosen).congr (by simp)
      | cons first' ls =>
        obtain ⟨second', rs, rfl⟩ := List.exists_cons_of_length_eq_add_one (Nat.succ.inj same.symm)
        cases op with
        | eq =>
          exact (pairwise comparable (by decide) same (List.cons_ne_nil first _) l r).parens .loose
        | ne =>
          exact (pairwise comparable (by decide) same (List.cons_ne_nil first _) l r).parens .loose
        | lt | lte | gt | gte =>
          exact (lexicographic comparable same (List.cons_ne_nil first _) l r).parens .loose
        | distinctFrom | notDistinctFrom => contradiction

end

end PortableSql.Spanner.Phrase
