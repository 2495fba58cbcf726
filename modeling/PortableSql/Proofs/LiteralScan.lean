import Mathlib.Tactic.SplitIfs
import PortableSql.Config

/-! A scanner that tells string literals from other text.

It knows of quotes and, in the style with backslashes, of the character after one; it reads no words. A
quoted content is found again as one literal unless a quote follows it (`scan_quote`), and text without
quotes is found again as it is (`scan_other`).
-/

set_option autoImplicit false

namespace PortableSql

/-- What a scanner finds. -/
inductive ScanPiece where
  | other (c : Char)
  | literal (content : List Char)
  -- A literal that no quote ends.
  | unclosed (content : List Char)
  deriving DecidableEq, Repr

/-- Where a scanner stands, and what it has read of a literal. -/
inductive Reading where
  | outside
  | inside (read : List Char)
  -- After a backslash.
  | escaped (read : List Char)
  -- After a quote, which ends the literal unless another quote follows.
  | closing (read : List Char)
  deriving DecidableEq, Repr

namespace LiteralEscape

/-- What a character stands for after a backslash. -/
def unescape (c : Char) : Char :=
  if c = 'n' then '\n' else c

def scanFrom (style : LiteralEscape) : Reading → List Char → List ScanPiece
  | .outside, [] => []
  | .outside, c :: rest =>
    if c = '\'' then scanFrom style (.inside []) rest else .other c :: scanFrom style .outside rest
  | .inside read, [] | .escaped read, [] => [.unclosed read]
  | .inside read, c :: rest =>
    match style with
    | .standard =>
      if c = '\'' then scanFrom style (.closing read) rest else scanFrom style (.inside (read ++ [c])) rest
    | .backslash =>
      if c = '\'' then .literal read :: scanFrom style .outside rest
      else if c = '\\' then scanFrom style (.escaped read) rest
      else scanFrom style (.inside (read ++ [c])) rest
  | .escaped read, c :: rest => scanFrom style (.inside (read ++ [unescape c])) rest
  | .closing read, [] => [.literal read]
  | .closing read, c :: rest =>
    if c = '\'' then scanFrom style (.inside (read ++ [c])) rest
    else .literal read :: .other c :: scanFrom style .outside rest

def scan (style : LiteralEscape) (text : List Char) : List ScanPiece :=
  scanFrom style .outside text

variable (style : LiteralEscape)

theorem scan_other {text : List Char} (plain : '\'' ∉ text) (rest : List Char) :
    style.scan (text ++ rest) = text.map .other ++ style.scan rest := by
  induction text with
  | nil => rfl
  | cons c text ih =>
    obtain ⟨own, others⟩ := not_or.mp (mt List.mem_cons.mpr plain)
    have next := ih others
    simp only [scan] at next ⊢
    simp only [List.cons_append, List.map_cons, scanFrom, if_neg (Ne.symm own), next]

theorem scanFrom_head {reading : Reading} (within : reading ≠ .outside) (text : List Char) (c : Char) :
    (style.scanFrom reading text).head? ≠ some (.other c) := by
  induction text generalizing reading with
  | nil => cases reading <;> simp_all [scanFrom]
  | cons d text ih =>
    cases reading with
    | outside => contradiction
    | inside read => cases style <;> simp only [scanFrom] <;> split_ifs <;> simp [ih]
    | escaped read => simp [scanFrom, ih]
    | closing read =>
      simp only [scanFrom]
      split_ifs <;> simp [ih]

/-- What a scanner finds first outside of literals is the first character of the text. -/
theorem head_of_scan {text : List Char} {c : Char} (head : (style.scan text).head? = some (.other c)) :
    text.head? = some c := by
  cases text with
  | nil => contradiction
  | cons d text =>
    rw [scan, scanFrom] at head
    split_ifs at head
    · exact absurd head (style.scanFrom_head (nofun : Reading.inside [] ≠ .outside) text c)
    · cases head
      rfl

/-- Inside a literal the scanner undoes what was escaped, character by character. -/
theorem scanFrom_escape (c : Char) (read rest : List Char) :
    style.scanFrom (.inside read) (style.escape c ++ rest) = style.scanFrom (.inside (read ++ [c])) rest := by
  cases style with
  | standard =>
    by_cases quote : c = '\''
    · subst quote
      rfl
    · have plain : escape .standard c = [c] := by grind [escape]
      simp [plain, scanFrom, quote]
  | backslash =>
    by_cases special : c = '\\' ∨ c = '\'' ∨ c = '\n'
    · rcases special with rfl | rfl | rfl <;> rfl
    · rw [not_or, not_or] at special
      have plain : escape .backslash c = [c] := by grind [escape]
      simp [plain, scanFrom, special]

theorem scanFrom_content (content read rest : List Char) :
    style.scanFrom (.inside read) (content.flatMap style.escape ++ rest) =
      style.scanFrom (.inside (read ++ content)) rest := by
  induction content generalizing read with
  | nil => rw [List.append_nil, List.flatMap_nil, List.nil_append]
  | cons c content ih =>
    rw [List.flatMap_cons, List.append_assoc, scanFrom_escape, ih, List.append_assoc, List.singleton_append]

theorem scan_quote (content : String) {rest : List Char} (apart : rest.head? ≠ some '\'') :
    style.scan ((style.quote content).toList ++ rest) = .literal content.toList :: style.scan rest := by
  have closing : style.scanFrom (.inside content.toList) ('\'' :: rest) =
      .literal content.toList :: style.scan rest := by
    cases style with
    | backslash => rfl
    | standard =>
      cases rest with
      | nil => rfl
      | cons c rest =>
        have other : c ≠ '\'' := fun same => apart (congrArg some same)
        simp [scan, scanFrom, other]
  have opening : style.scan ((style.quote content).toList ++ rest) =
      style.scanFrom (.inside []) (content.toList.flatMap style.escape ++ '\'' :: rest) := by
    simp [scan, quote, scanFrom]
  rw [opening, scanFrom_content, List.nil_append, closing]

example : LiteralEscape.standard.scan "a='it''s'".toList =
    [.other 'a', .other '=', .literal "it's".toList] := by decide

/-- Whether a character is written as it is in a literal of either style. -/
def isOrdinary (c : Char) : Bool :=
  c != '\'' && c != '\\' && c != '\n'

theorem escape_plain {text : List Char} (plain : text.all isOrdinary = true) :
    text.flatMap style.escape = text := by
  induction text with
  | nil => rfl
  | cons c text ih =>
    rw [List.all_cons, Bool.and_eq_true] at plain
    obtain ⟨own, others⟩ := plain
    have single : style.escape c = [c] := by cases style <;> grind [escape, isOrdinary]
    rw [List.flatMap_cons, single, ih others, List.singleton_append]

/-- A content without special characters stands between quotes as it is. -/
theorem quote_plain {content : String} (plain : content.toList.all isOrdinary = true) :
    style.quote content = "'" ++ content ++ "'" := by
  rw [quote, escape_plain style plain, ← String.toList_inj]
  simp

theorem scan_quote_alone (content : String) :
    style.scan (style.quote content).toList = [.literal content.toList] := by
  have apart : ([] : List Char).head? ≠ some '\'' := nofun
  have alone := style.scan_quote content apart
  rwa [List.append_nil] at alone

/-- Whether the scanner takes a text apart from what follows it: from any text that does not begin with
a quote or, if the text before ends outside of literals for good (`after` does not hold), from any text at
all. If `before` holds then the text does not begin with a quote itself. -/
def Splits (before : Bool) (text : List Char) (after : Bool) : Prop :=
  ∀ rest : List Char, (after = true → rest.head? ≠ some '\'') →
    (before = true → (text ++ rest).head? ≠ some '\'') ∧
    style.scan (text ++ rest) = style.scan text ++ style.scan rest

namespace Splits

variable {style} {before between after : Bool} {first second text : List Char}

theorem scan_append (left : style.Splits before first between) (right : style.Splits between second after) :
    style.scan (first ++ second) = style.scan first ++ style.scan second := by
  have next := right [] nofun
  rw [List.append_nil] at next
  exact (left second next.1).2

theorem append (left : style.Splits before first between) (right : style.Splits between second after) :
    style.Splits before (first ++ second) after := by
  intro rest apart
  obtain ⟨next, tail⟩ := right rest apart
  obtain ⟨opening, whole⟩ := left (second ++ rest) next
  rw [List.append_assoc, whole, tail, left.scan_append right, List.append_assoc]
  exact ⟨opening, rfl⟩

theorem weaken {before' after' : Bool} (splits : style.Splits before text after) (le : before' ≤ before)
    (ge : after ≤ after') : style.Splits before' text after' := by
  intro rest apart
  obtain ⟨opening, whole⟩ := splits rest fun flag => apart (ge flag)
  exact ⟨fun flag => opening (le flag), whole⟩

/-- Text without quotes passes on what is said of its edges. -/
theorem plain (edge : Bool) (unquoted : '\'' ∉ text) : style.Splits edge text edge := by
  intro rest apart
  refine ⟨fun flag => ?_, ?_⟩
  · cases text with
    | nil => exact apart flag
    | cons c text => exact fun same => unquoted (Option.some.inj same ▸ List.mem_cons_self)
  · have own := style.scan_other unquoted []
    rw [List.append_nil] at own
    rw [scan_other style unquoted, own, List.append_assoc]
    rfl

theorem words (unquoted : '\'' ∉ text) (inhabited : text ≠ []) : style.Splits true text false := by
  intro rest _
  refine ⟨fun _ => ?_, (plain false unquoted rest nofun).2⟩
  cases text with
  | nil => contradiction
  | cons c text => exact fun same => unquoted (Option.some.inj same ▸ List.mem_cons_self)

theorem quote (content : String) : style.Splits false (style.quote content).toList true := by
  intro rest apart
  rw [style.scan_quote content (apart rfl), style.scan_quote_alone]
  exact ⟨nofun, rfl⟩

end Splits

end LiteralEscape

end PortableSql
