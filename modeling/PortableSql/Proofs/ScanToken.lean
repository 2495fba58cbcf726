import Mathlib.Data.List.Chain
import PortableSql.Proofs.LiteralScan

/-! The words of a text.

What a scanner finds outside of string literals falls into words and signs; a literal is a token of its own,
and blanks only keep words apart. Texts have the tokens of both one after the other unless a word goes on
from one into the other (`LiteralEscape.tokens_append`).
-/

set_option autoImplicit false

namespace PortableSql

inductive ScanToken where
  | word (letters : List Char)
  | sign (c : Char)
  | literal (content : List Char)
  deriving DecidableEq, Repr

namespace ScanToken

def ofWord (text : String) : ScanToken :=
  .word text.toList

/-- Whether a word goes on with a character. -/
def isLetter (c : Char) : Bool :=
  c.isAlphanum || c == '_'

def isVisible : ScanToken → Bool
  | .sign c => !c.isWhitespace
  | .word _ | .literal _ => true

-- A letter belongs to the word behind it.
def pushLetter (c : Char) : List ScanToken → List ScanToken
  | .word letters :: rest => .word (c :: letters) :: rest
  | [] => [.word [c]]
  | .sign d :: rest => .word [c] :: .sign d :: rest
  | .literal content :: rest => .word [c] :: .literal content :: rest

/-- Put what a scanner found in front of tokens. -/
def push (piece : ScanPiece) (tokens : List ScanToken) : List ScanToken :=
  match piece with
  | .other c => if isLetter c then pushLetter c tokens else .sign c :: tokens
  | .literal content | .unclosed content => .literal content :: tokens

/-- All tokens, blanks included. -/
def run (pieces : List ScanPiece) : List ScanToken :=
  pieces.foldr push []

def ofPieces (pieces : List ScanPiece) : List ScanToken :=
  (run pieces).filter isVisible

variable {pieces : List ScanPiece} {c : Char} {tokens : List ScanToken} {letters : List Char}

theorem run_cons (piece : ScanPiece) (pieces : List ScanPiece) : run (piece :: pieces) = push piece (run pieces) := rfl

theorem pushLetter_of_apart (apart : ∀ letters, tokens.head? ≠ some (.word letters)) :
    pushLetter c tokens = .word [c] :: tokens := by
  cases tokens with
  | nil => rfl
  | cons first rest =>
    cases first with
    | word letters => exact absurd rfl (apart letters)
    | sign | literal => rfl

theorem push_append (piece : ScanPiece) (first : ScanToken) (tokens rest : List ScanToken) :
    push piece (first :: tokens ++ rest) = push piece (first :: tokens) ++ rest := by
  cases piece with
  | other c =>
    simp only [push]
    split_ifs
    · cases first <;> rfl
    · rfl
  | literal | unclosed => rfl

theorem push_ne_nil (piece : ScanPiece) (tokens : List ScanToken) : push piece tokens ≠ [] := by
  have inhabited (c : Char) : pushLetter c tokens ≠ [] := by
    unfold pushLetter
    split <;> exact List.cons_ne_nil _ _
  cases piece with
  | other c =>
    simp only [push]
    split_ifs
    · exact inhabited c
    · exact List.cons_ne_nil _ _
  | literal | unclosed => exact List.cons_ne_nil _ _

/-- The tokens begin with a word where the text begins with a letter. -/
theorem head_of_run (head : (run pieces).head? = some (.word letters)) :
    ∃ c, pieces.head? = some (.other c) ∧ isLetter c = true := by
  cases pieces with
  | nil => contradiction
  | cons piece pieces =>
    rw [run_cons] at head
    cases piece with
    | other c =>
      cases letter : isLetter c with
      | true => exact ⟨c, rfl, letter⟩
      | false =>
        rw [push, letter] at head
        cases head
    | literal | unclosed => cases head

/-- Whether no word goes on from pieces into others. -/
def Severed (first second : List ScanPiece) : Prop :=
  ∀ c d, first.getLast? = some (.other c) → second.head? = some (.other d) → isLetter c = true → isLetter d = false

theorem run_append {first second : List ScanPiece} (severed : Severed first second) :
    run (first ++ second) = run first ++ run second := by
  induction first with
  | nil => rfl
  | cons piece first ih =>
    rw [List.cons_append, run_cons, run_cons]
    cases first with
    | nil =>
      cases piece with
      | other c =>
        cases letter : isLetter c with
        | true =>
          have apart (letters : List Char) : (run second).head? ≠ some (.word letters) := fun head => by
            obtain ⟨d, start, goesOn⟩ := head_of_run head
            exact absurd goesOn (Bool.eq_false_iff.mp (severed c d rfl start letter))
          simp only [push, letter, if_true, List.nil_append, pushLetter_of_apart apart]
          rfl
        | false =>
          simp only [push, letter, Bool.false_eq_true, if_false]
          rfl
      | literal | unclosed => rfl
    | cons next first =>
      have later : Severed (next :: first) second := fun c d last => severed c d (by rwa [List.getLast?_cons_cons])
      rw [ih later, run_cons]
      obtain ⟨token, tokens, same⟩ := List.exists_cons_of_ne_nil (push_ne_nil next (run first))
      rw [same, push_append]

theorem ofPieces_append {first second : List ScanPiece} (severed : Severed first second) :
    ofPieces (first ++ second) = ofPieces first ++ ofPieces second := by
  rw [ofPieces, run_append severed, List.filter_append]
  rfl

theorem mem_of_mem_pushLetter (mem : .word letters ∈ pushLetter c tokens) :
    letters ⊆ [c] ∨ .word letters ∈ tokens ∨ ∃ own, .word own ∈ tokens ∧ letters = c :: own := by
  unfold pushLetter at mem
  split at mem
  · next own rest =>
    rcases List.mem_cons.mp mem with same | mem
    · exact .inr (.inr ⟨own, List.mem_cons_self, ScanToken.word.inj same⟩)
    · exact .inr (.inl (List.mem_cons_of_mem _ mem))
  all_goals
    rcases List.mem_cons.mp mem with same | mem
    · exact .inl (ScanToken.word.inj same ▸ List.Subset.refl _)
    · exact .inr (.inl mem)

/-- The letters of a word stand in the text. -/
theorem mem_of_mem_run (mem : .word letters ∈ run pieces) : ∀ c ∈ letters, .other c ∈ pieces := by
  induction pieces generalizing letters with
  | nil => contradiction
  | cons piece pieces ih =>
    have older (mem : .word letters ∈ run pieces) : ∀ c ∈ letters, .other c ∈ piece :: pieces :=
      fun c own => List.mem_cons_of_mem _ (ih mem c own)
    rw [run_cons] at mem
    cases piece with
    | literal | unclosed => exact older ((List.mem_cons.mp mem).resolve_left nofun)
    | other d =>
      simp only [push] at mem
      split_ifs at mem
      · rcases mem_of_mem_pushLetter mem with single | mem | ⟨others, there, rfl⟩
        · intro c own
          obtain rfl := List.mem_singleton.mp (single own)
          exact List.mem_cons_self
        · exact older mem
        · intro c own
          rcases List.mem_cons.mp own with rfl | own
          · exact List.mem_cons_self
          · exact List.mem_cons_of_mem _ (ih there c own)
      · exact older ((List.mem_cons.mp mem).resolve_left nofun)

theorem run_letters (inhabited : letters ≠ []) (plain : letters.all isLetter = true) :
    run (letters.map .other) = [.word letters] := by
  induction letters with
  | nil => contradiction
  | cons c letters ih =>
    obtain ⟨own, others⟩ := Bool.and_eq_true_iff.mp plain
    rw [List.map_cons, run_cons, push, if_pos own]
    cases letters with
    | nil => rfl
    | cons d letters =>
      rw [ih (List.cons_ne_nil d letters) others]
      rfl

/-- The tokens of a text without literals. -/
def ofText (text : List Char) : List ScanToken :=
  ofPieces (text.map .other)

theorem ofText_letters (inhabited : letters ≠ []) (plain : letters.all isLetter = true) :
    ofText letters = [.word letters] := by
  rw [ofText, ofPieces, run_letters inhabited plain]
  rfl

/-- A text that does not begin with a blank has tokens. -/
theorem ofText_cons {text : List Char} (visible : c.isWhitespace = false) :
    ∃ token tokens, ofText (c :: text) = token :: tokens := by
  have first : ∃ token tokens, run ((c :: text).map .other) = token :: tokens ∧ token.isVisible = true := by
    rw [List.map_cons, run_cons]
    simp only [push]
    split_ifs
    · unfold pushLetter
      split <;> exact ⟨_, _, rfl, rfl⟩
    · exact ⟨_, _, rfl, by rw [isVisible, visible]; rfl⟩
  obtain ⟨token, tokens, same, seen⟩ := first
  exact ⟨token, tokens.filter isVisible, by rw [ofText, ofPieces, same, List.filter_cons_of_pos seen]⟩

theorem subset_of_mem_ofText {text : List Char} (mem : .word letters ∈ ofText text) : letters ⊆ text := by
  intro c own
  obtain ⟨d, mem, same⟩ := List.mem_map.mp (mem_of_mem_run (List.mem_of_mem_filter mem) c own)
  cases same
  exact mem

end ScanToken

namespace LiteralEscape

variable (style : LiteralEscape)

/-- The words, signs and literals of a text. -/
def tokens (text : List Char) : List ScanToken :=
  ScanToken.ofPieces (style.scan text)

/-- The tokens of a text without quotes, and of a rest into which none of its words goes on. -/
theorem tokens_append {text rest : List Char} (unquoted : '\'' ∉ text)
    (severed : ∀ c d, text.getLast? = some c → rest.head? = some d → ScanToken.isLetter c = true →
      ScanToken.isLetter d = false) : style.tokens (text ++ rest) = ScanToken.ofText text ++ style.tokens rest := by
  rw [tokens, style.scan_other unquoted, ScanToken.ofPieces_append]
  · rfl
  · intro c d last head
    rw [List.getLast?_map] at last
    obtain ⟨e, last, same⟩ := Option.map_eq_some_iff.mp last
    cases same
    exact severed c d last (style.head_of_scan head)

theorem tokens_quote (content : String) {rest : List Char} (apart : rest.head? ≠ some '\'') :
    style.tokens ((style.quote content).toList ++ rest) = .literal content.toList :: style.tokens rest := by
  rw [tokens, style.scan_quote content apart]
  rfl

example : LiteralEscape.standard.tokens "a is not null or b='from'".toList =
    [.ofWord "a", .ofWord "is", .ofWord "not", .ofWord "null", .ofWord "or", .ofWord "b", .sign '=',
      .literal "from".toList] := by decide

end LiteralEscape

end PortableSql
