import PortableSql.Proofs.NumeralText
import PortableSql.Proofs.ScanToken

/-! The outline of a text: its parentheses, and the clause words outside of them.

A token moves the depth of parentheses by one or leaves it as it is (`ScanToken.depth?`), and at depth zero
the clause words of a text are those of its outermost query (`ScanToken.clauses`). Both go through a text
from one end to the other, so that they are known of texts put together (`ScanToken.Runs`). Where words begin
and end is of no matter to the parentheses (`ScanToken.depth?_ofPieces_append`).
-/

set_option autoImplicit false

namespace PortableSql

/-- The words of the clauses of a query. -/
def clauseWords : List String :=
  ["select", "from", "where", "group", "by", "having", "order", "limit", "offset", "fetch", "for", "union",
    "intersect", "except"]

namespace ScanToken

/-- Whether a token is a clause word, in letters of either case. -/
def isClauseWord : ScanToken → Bool
  | .word letters => clauseWords.any fun word => word.toList == letters.map Char.toLower
  | .sign _ | .literal _ => false

def isParen : ScanToken → Bool
  | .sign c => c == '(' || c == ')'
  | .word _ | .literal _ => false

/-- The depth of parentheses behind a token; no parenthesis closes that is not open. -/
def step? (depth : Nat) : ScanToken → Option Nat
  | .sign '(' => some (depth + 1)
  | .sign ')' => if depth = 0 then none else some (depth - 1)
  | _ => some depth

/-- The depth of parentheses behind tokens. -/
def depth? (depth : Nat) : List ScanToken → Option Nat
  | [] => some depth
  | token :: tokens => (token.step? depth).bind (depth? · tokens)

/-- The clause words outside of all parentheses. -/
def clauses (depth : Nat) : List ScanToken → List ScanToken
  | [] => []
  | token :: tokens =>
    (if depth = 0 ∧ token.isClauseWord then [token] else []) ++ clauses ((token.step? depth).getD 0) tokens

variable {depth between after : Nat} {token : ScanToken} {tokens first second words words' : List ScanToken}

theorem depth?_append (depth : Nat) (first second : List ScanToken) :
    depth? depth (first ++ second) = (depth? depth first).bind (depth? · second) := by
  induction first generalizing depth with
  | nil => rfl
  | cons token first ih =>
    rw [List.cons_append, depth?, depth?]
    cases token.step? depth with
    | none => rfl
    | some next => exact ih next

theorem step?_of_not_paren (other : token.isParen = false) : token.step? depth = some depth := by
  unfold step?
  split
  · contradiction
  · contradiction
  · rfl

/-- Only parentheses count for the depth. -/
theorem depth?_filter (depth : Nat) (tokens : List ScanToken) :
    depth? depth (tokens.filter isParen) = depth? depth tokens := by
  induction tokens generalizing depth with
  | nil => rfl
  | cons token tokens ih =>
    cases paren : token.isParen with
    | false =>
      rw [List.filter_cons_of_neg (by rw [paren]; exact Bool.false_ne_true), depth?, step?_of_not_paren paren]
      exact ih depth
    | true =>
      rw [List.filter_cons_of_pos paren, depth?, depth?]
      cases token.step? depth with
      | none => rfl
      | some next => exact ih next

theorem step?_succ {next : Nat} (step : token.step? depth = some next) : token.step? (depth + 1) = some (next + 1) := by
  unfold step? at step ⊢
  split at step
  · rw [← Option.some.inj step]
  · split_ifs at step with zero
    rw [if_neg (Nat.succ_ne_zero depth), ← Option.some.inj step, Nat.add_sub_cancel]
    exact congrArg some (Nat.succ_pred_eq_of_ne_zero zero).symm
  · rw [← Option.some.inj step]

/-- What stands in parentheses leads one deeper from one deeper. -/
theorem depth?_succ (run : depth? depth tokens = some after) : depth? (depth + 1) tokens = some (after + 1) := by
  induction tokens generalizing depth with
  | nil => exact congrArg (Option.map (· + 1)) run
  | cons token tokens ih =>
    obtain ⟨next, step, rest⟩ := Option.bind_eq_some_iff.mp run
    rw [depth?, step?_succ step]
    exact ih rest

/-- In parentheses no clause word is outside of them. -/
theorem clauses_succ (run : depth? depth tokens = some after) : clauses (depth + 1) tokens = [] := by
  induction tokens generalizing depth with
  | nil => rfl
  | cons token tokens ih =>
    obtain ⟨next, step, rest⟩ := Option.bind_eq_some_iff.mp run
    rw [clauses, if_neg (fun inside => Nat.succ_ne_zero depth inside.1), step?_succ step]
    exact ih rest

theorem clauses_append (run : depth? depth first = some between) :
    clauses depth (first ++ second) = clauses depth first ++ clauses between second := by
  induction first generalizing depth with
  | nil =>
    cases run
    rfl
  | cons token first ih =>
    obtain ⟨next, step, rest⟩ := Option.bind_eq_some_iff.mp run
    simp only [List.cons_append, clauses, step, Option.getD_some, ih rest, List.append_assoc]

/-- Tokens that lead from one depth to another, with these clause words outside of all parentheses. -/
structure Runs (depth : Nat) (tokens words : List ScanToken) (after : Nat) : Prop where
  reaches : depth? depth tokens = some after
  shows : clauses depth tokens = words

instance : Decidable (Runs depth tokens words after) :=
  decidable_of_iff (depth? depth tokens = some after ∧ clauses depth tokens = words)
    ⟨fun ⟨reaches, shows⟩ => ⟨reaches, shows⟩, fun run => ⟨run.reaches, run.shows⟩⟩

namespace Runs

theorem nil (depth : Nat) : Runs depth [] [] depth := ⟨rfl, rfl⟩

theorem append (left : Runs depth first words between) (right : Runs between second words' after) :
    Runs depth (first ++ second) (words ++ words') after := by
  constructor
  · rw [depth?_append, left.reaches]
    exact right.reaches
  · rw [clauses_append left.reaches, left.shows, right.shows]

theorem deeper (run : Runs depth tokens words after) : Runs (depth + 1) tokens [] (after + 1) :=
  ⟨depth?_succ run.reaches, clauses_succ run.reaches⟩

/-- Tokens without parentheses and clause words. -/
theorem of_quiet (level : tokens.filter isParen = []) (silent : ∀ token ∈ tokens, token.isClauseWord = false) :
    Runs depth tokens [] depth := by
  constructor
  · rw [← depth?_filter, level]
    rfl
  · induction tokens with
    | nil => rfl
    | cons token tokens ih =>
      obtain ⟨own, others⟩ := List.forall_mem_cons.mp silent
      have unparen : token.isParen = false := Bool.eq_false_iff.mpr (List.filter_eq_nil_iff.mp level _ (.head _))
      have rest : tokens.filter isParen = [] :=
        List.filter_eq_nil_iff.mpr fun token mem => List.filter_eq_nil_iff.mp level token (.tail _ mem)
      rw [clauses, if_neg (fun there => by rw [own] at there; exact Bool.false_ne_true there.2),
        step?_of_not_paren unparen]
      exact ih rest others

/-- Tokens of which that can be checked. -/
theorem plain (level : tokens.filter isParen = []) (silent : tokens.all (!·.isClauseWord) = true) :
    Runs depth tokens [] depth :=
  of_quiet level fun token mem => by simpa using List.all_eq_true.mp silent token mem

end Runs

/-! The parentheses of a text are those of its pieces, wherever its words begin and end. -/

theorem filter_push (piece : ScanPiece) (tokens : List ScanToken) :
    (push piece tokens).filter isParen = (push piece []).filter isParen ++ tokens.filter isParen := by
  have letter (c : Char) : (pushLetter c tokens).filter isParen = tokens.filter isParen := by
    unfold pushLetter
    split <;> rfl
  cases piece with
  | literal | unclosed => rfl
  | other c =>
    simp only [push]
    split_ifs
    · exact letter c
    · exact List.filter_cons.trans (by cases paren : (ScanToken.sign c).isParen <;> simp [paren])

theorem filter_run_append (first second : List ScanPiece) :
    (run (first ++ second)).filter isParen = (run first).filter isParen ++ (run second).filter isParen := by
  induction first with
  | nil => rfl
  | cons piece first ih =>
    rw [List.cons_append, run_cons, run_cons, filter_push, ih, filter_push piece (run first), List.append_assoc]

theorem filter_ofPieces (pieces : List ScanPiece) :
    (ofPieces pieces).filter isParen = (run pieces).filter isParen := by
  have visible (token : ScanToken) : (token.isParen && token.isVisible) = token.isParen := by
    cases token with
    | word | literal => rfl
    | sign c =>
      by_cases opening : c = '('
      · subst opening
        rfl
      · by_cases closing : c = ')'
        · subst closing
          rfl
        · simp [isParen, opening, closing]
  rw [ofPieces, List.filter_filter]
  exact List.filter_congr fun token _ => visible token

theorem depth?_ofPieces_append (depth : Nat) (first second : List ScanPiece) :
    depth? depth (ofPieces (first ++ second)) =
      (depth? depth (ofPieces first)).bind (depth? · (ofPieces second)) := by
  rw [← depth?_append, ← depth?_filter, filter_ofPieces, filter_run_append, ← filter_ofPieces, ← filter_ofPieces,
    ← List.filter_append, depth?_filter]

/-- The tokens of a text without literals, and of a rest into which none of its words goes on. -/
theorem ofText_append {first second : List Char}
    (severed : ∀ c d, first.getLast? = some c → second.head? = some d → isLetter c = true → isLetter d = false) :
    ofText (first ++ second) = ofText first ++ ofText second := by
  rw [ofText, List.map_append, ofPieces_append]
  · rfl
  · intro c d last head
    rw [List.getLast?_map] at last
    rw [List.head?_map] at head
    obtain ⟨c, last, same⟩ := Option.map_eq_some_iff.mp last
    obtain ⟨d, head, same'⟩ := Option.map_eq_some_iff.mp head
    cases same
    cases same'
    exact severed c d last head

theorem ofText_names_cons (first second : String) (names : List String) :
    ofText (String.intercalate "," (first :: second :: names)).toList =
      ofText first.toList ++ .sign ',' :: ofText (String.intercalate "," (second :: names)).toList := by
  rw [String.intercalate_cons_cons, String.toList_append, String.toList_append, List.append_assoc,
    ofText_append, ofText_append]
  · rfl
  · intro c d last
    cases last
    nofun
  · intro c d _ head
    cases head
    exact fun _ => rfl

/-- What is kept where tokens are put together with a comma between them holds of a list of names, if it holds of
each and of no tokens. -/
theorem ofText_names (holds : List ScanToken → Prop) (none : holds [])
    (comma : ∀ {first second}, holds first → holds second → holds (first ++ .sign ',' :: second))
    {names : List String} (each : ∀ name ∈ names, holds (ofText name.toList)) :
    holds (ofText (String.intercalate "," names).toList) := by
  induction names with
  | nil => exact none
  | cons first names ih =>
    obtain ⟨own, others⟩ := List.forall_mem_cons.mp each
    cases names with
    | nil =>
      rw [String.intercalate_singleton]
      exact own
    | cons second names =>
      rw [ofText_names_cons]
      exact comma own (ih others)

/-- A text without parentheses has none among its tokens. -/
theorem filter_ofText {text : List Char} (level : ∀ c ∈ text, c ≠ '(' ∧ c ≠ ')') :
    (ofText text).filter isParen = [] := by
  rw [ofText, filter_ofPieces]
  induction text with
  | nil => rfl
  | cons c text ih =>
    obtain ⟨own, others⟩ := List.forall_mem_cons.mp level
    rw [List.map_cons, run_cons, filter_push, ih others, List.append_nil, push]
    split_ifs
    · rfl
    · simp [isParen, own]

/-- A number has no parentheses, and of its letters no clause word is made. -/
theorem Runs.figures {text : List Char} (figures : Figures text) : Runs depth (ofText text) [] depth := by
  have lower (c : Char) (own : isFigure c = true) : isFigure c.toLower = true := by
    rcases Bool.or_eq_true_iff.mp own with digit | sign
    · have same : c.toLower = c := by
        simp only [Char.isDigit, Bool.and_eq_true, decide_eq_true_eq] at digit
        exact dif_neg fun upper => absurd (Nat.le_trans upper.1 digit.2) (by decide)
      rwa [same]
    · have sign := List.contains_iff_mem.mp sign
      revert sign
      have each : "+-.e".toList.all (fun c => isFigure c.toLower) = true := rfl
      exact List.all_eq_true.mp each c
  refine .of_quiet (filter_ofText fun c mem => ?_) fun token mem => ?_
  · have own := figures c mem
    exact ⟨fun paren => absurd (paren ▸ own) (by decide), fun paren => absurd (paren ▸ own) (by decide)⟩
  · cases token with
    | sign | literal => rfl
    | word letters =>
      refine Bool.eq_false_iff.mpr fun clause => ?_
      obtain ⟨word, mem', same⟩ := List.any_eq_true.mp clause
      have foreign : ∀ word ∈ clauseWords, word.toList.all isFigure = false := by decide
      have all : word.toList.all isFigure = true := by
        rw [beq_iff_eq.mp same, List.all_map]
        exact List.all_eq_true.mpr fun c own => lower c (figures c (subset_of_mem_ofText mem own))
      exact absurd all (Bool.eq_false_iff.mp (foreign word mem'))

end ScanToken

end PortableSql
