import Mathlib.Data.List.Chain
import Mathlib.Data.List.Infix
import PortableSql.Proofs.LiteralScan
import PortableSql.Proofs.NumeralText

/-! Comments in a text.

A comment opens with one or two signs outside of string literals. Pieces in which none opens and whose last
one is not the first sign of a pair are calm (`Calm`), and calm pieces stay so one after another. What a value
writes is calm: a sign in a number is always followed by a digit.
-/

set_option autoImplicit false

namespace PortableSql

def commentOpeners : List String := ["--", "/*", "#"]

/-- Whether a comment opens outside of the literals that a scanner finds. -/
def OpensComment (pieces : List ScanPiece) : Prop :=
  ∃ opener ∈ commentOpeners, opener.toList.map ScanPiece.other <:+: pieces

instance (pieces : List ScanPiece) : Decidable (OpensComment pieces) :=
  inferInstanceAs (Decidable (∃ opener ∈ commentOpeners, opener.toList.map ScanPiece.other <:+: pieces))

/-- A character that a comment opens with. -/
def isCommentSign (c : Char) : Bool :=
  "-/#".toList.contains c

/-- Whether no character of a text opens a comment, alone or with another. -/
def Signless (text : List Char) : Prop :=
  ∀ c ∈ text, isCommentSign c = false

theorem Signless.of_all {text : List Char} (plain : text.all (!isCommentSign ·) = true) : Signless text :=
  fun c mem => by simpa using List.all_eq_true.mp plain c mem

/-- Whether two characters side by side open a comment. -/
def opensPair (first second : Char) : Bool :=
  first == '-' && second == '-' || first == '/' && second == '*'

/-- A quote, or a sign that a comment opens with or goes on with. -/
def isSpecial (c : Char) : Bool :=
  "'-/*#".toList.contains c

/-- Whether a text has no quotes and no signs of comments. -/
def PlainWords (words : String) : Prop :=
  words.toList.all (!isSpecial ·) = true

instance (words : String) : Decidable (PlainWords words) :=
  inferInstanceAs (Decidable (_ = true))

namespace PlainWords

variable {words : String} {c : Char}

theorem not_mem (plain : PlainWords words) (special : isSpecial c = true) : c ∉ words.toList := by
  intro mem
  have own := List.all_eq_true.mp plain c mem
  rw [special] at own
  contradiction

theorem of_not_mem (absent : ∀ c, isSpecial c = true → c ∉ words.toList) : PlainWords words := by
  refine List.all_eq_true.mpr fun c mem => ?_
  cases special : isSpecial c with
  | true => exact absurd mem (absent c special)
  | false => rfl

theorem unquoted (plain : PlainWords words) : '\'' ∉ words.toList :=
  plain.not_mem (by decide)

theorem start (plain : PlainWords words) (head : words.toList.head? = some c) : c ≠ '-' ∧ c ≠ '*' := by
  have own : c ∈ words.toList := List.mem_of_mem_head? head
  exact ⟨fun minus => plain.not_mem (by decide) (minus ▸ own), fun star => plain.not_mem (by decide) (star ▸ own)⟩

theorem signless (plain : PlainWords words) : Signless words.toList := by
  intro c mem
  refine Bool.eq_false_iff.mpr fun sign => ?_
  have special : "-/#".toList.all isSpecial = true := by decide
  exact plain.not_mem (List.all_eq_true.mp special c (List.contains_iff_mem.mp sign)) mem

end PlainWords

/-- Whether two pieces side by side do not open a comment. -/
def ScanPiece.Apart (first second : ScanPiece) : Prop :=
  ∀ c d, first = .other c → second = .other d → opensPair c d = false

/-- Whether no comment opens in pieces, and none does where others follow. -/
structure Calm (pieces : List ScanPiece) : Prop where
  apart : pieces.IsChain ScanPiece.Apart
  unmarked : .other '#' ∉ pieces
  settled : ∀ c, pieces.getLast? = some (.other c) → isCommentSign c = false

theorem opensPair_eq_false {first second : Char} (plain : isCommentSign first = false) :
    opensPair first second = false := by
  refine Bool.eq_false_iff.mpr fun opens => ?_
  simp only [opensPair, Bool.or_eq_true, Bool.and_eq_true, beq_iff_eq] at opens
  rcases opens with ⟨rfl, _⟩ | ⟨rfl, _⟩ <;> exact absurd plain (by decide)

namespace Calm

variable {first second pieces : List ScanPiece} {text : List Char}

theorem nil : Calm [] := ⟨.nil, List.not_mem_nil, nofun⟩

theorem literal (content : List Char) : Calm [.literal content] where
  apart := .singleton _
  unmarked := by simp
  settled _ last := nomatch last

theorem append (left : Calm first) (right : Calm second) : Calm (first ++ second) where
  apart := by
    refine List.isChain_append.mpr ⟨left.apart, right.apart, fun piece last next _ c d same _ => ?_⟩
    exact opensPair_eq_false (left.settled c (same ▸ last))
  unmarked mem := (List.mem_append.mp mem).elim left.unmarked right.unmarked
  settled c last := by
    rw [List.getLast?_append] at last
    cases ended : second.getLast? with
    | none => exact left.settled c (by simpa [ended] using last)
    | some piece => exact right.settled c (by simpa [ended] using last)

/-- A sign in front of calm pieces that do not complete a pair. -/
theorem cons {c : Char} (calm : Calm pieces) (inhabited : pieces ≠ []) (unmarked : c ≠ '#')
    (next : ∀ d, pieces.head? = some (.other d) → opensPair c d = false) : Calm (.other c :: pieces) where
  apart := by
    refine List.isChain_cons.mpr ⟨fun piece head c' d same follows => ?_, calm.apart⟩
    cases same
    exact next d (follows ▸ head)
  unmarked mem := by
    rcases List.mem_cons.mp mem with same | mem
    · exact unmarked (ScanPiece.other.inj same).symm
    · exact calm.unmarked mem
  settled d last := by
    cases pieces with
    | nil => contradiction
    | cons piece pieces => exact calm.settled d (by rwa [List.getLast?_cons_cons] at last)

/-- Text without signs is calm. -/
theorem signless (signless : Signless text) : Calm (text.map .other) := by
  induction text with
  | nil => exact nil
  | cons c text ih =>
    obtain ⟨own, others⟩ := List.forall_mem_cons.mp signless
    have single : Calm [.other c] := by
      refine ⟨.singleton _, fun mem => ?_, fun d last => ?_⟩
      · cases List.mem_singleton.mp mem
        contradiction
      · cases last
        exact own
    exact single.append (ih others)

/-- No comment opens in calm pieces. -/
theorem not_opens (calm : Calm pieces) : ¬ OpensComment pieces := by
  have pair (c d : Char) (opens : opensPair c d = true) : ¬ [.other c, .other d] <:+: pieces := fun inside =>
    have chain := List.IsChain.infix calm.apart inside
    have apart := List.isChain_pair.mp chain c d rfl rfl
    Bool.false_ne_true (apart.symm.trans opens)
  rintro ⟨opener, mem, inside⟩
  simp only [commentOpeners, List.mem_cons, List.not_mem_nil, or_false] at mem
  rcases mem with rfl | rfl | rfl
  · exact pair '-' '-' rfl inside
  · exact pair '/' '*' rfl inside
  · exact calm.unmarked (inside.subset (List.mem_singleton_self _))

end Calm

theorem isCommentSign_of_isDigit {c : Char} (digit : c.isDigit = true) : isCommentSign c = false := by
  refine Bool.eq_false_iff.mpr fun sign => ?_
  rw [isCommentSign, List.contains_iff_mem] at sign
  have signs : "-/#".toList.all (!Char.isDigit ·) = true := by decide
  have other := List.all_eq_true.mp signs c sign
  rw [digit] at other
  contradiction

theorem signless_toDigits (number : Nat) : Signless (Nat.toDigits 10 number) :=
  fun _ mem => isCommentSign_of_isDigit (Nat.isDigit_of_mem_toDigits (by decide) (by decide) mem)

/-- Whether a text is calm and may stand after a minus sign. -/
structure Unsigned (text : List Char) : Prop where
  calm : Calm (text.map .other)
  inhabited : text ≠ []
  unsigned : text.head? ≠ some '-'

namespace Unsigned

variable {first second text : List Char}

theorem signless (signless : Signless text) (inhabited : text ≠ []) : Unsigned text where
  calm := .signless signless
  inhabited := inhabited
  unsigned head := absurd (signless '-' (List.mem_of_mem_head? head)) (by decide)

theorem append (unsigned : Unsigned first) (calm : Calm (second.map .other)) : Unsigned (first ++ second) where
  calm := by
    rw [List.map_append]
    exact unsigned.calm.append calm
  inhabited := List.append_ne_nil_of_left_ne_nil unsigned.inhabited second
  unsigned := by
    rw [List.head?_append_of_ne_nil _ unsigned.inhabited]
    exact unsigned.unsigned

theorem negated (unsigned : Unsigned text) : Calm (('-' :: text).map .other) := by
  refine unsigned.calm.cons (mt List.map_eq_nil_iff.mp unsigned.inhabited) (by decide) fun d head => ?_
  rw [List.head?_map, Option.map_eq_some_iff] at head
  obtain ⟨c, head, same⟩ := head
  cases same
  have other : d ≠ '-' := fun minus => unsigned.unsigned (minus ▸ head)
  simpa [opensPair] using other

theorem digits (number : Nat) : Unsigned (Nat.toDigits 10 number) :=
  signless (signless_toDigits number) Nat.toDigits_ne_nil

theorem writtenOut {digits : List Char} (signless : Signless digits) (magnitude : Int) :
    Unsigned (Decimal.writtenOut digits magnitude) := by
  have zeros (count : Nat) : Signless (List.replicate count '0') := fun _ mem =>
    List.eq_of_mem_replicate mem ▸ rfl
  rw [Decimal.writtenOut]
  split
  · refine .signless (List.forall_mem_append.mpr ⟨?_, signless⟩) (by simp)
    exact List.forall_mem_cons.mpr ⟨rfl, List.forall_mem_cons.mpr ⟨rfl, zeros _⟩⟩
  · have before : Signless (digits.take (magnitude.toNat + 1)) := fun c mem =>
      signless c (List.mem_of_mem_take mem)
    have after : Signless (digits.drop (magnitude.toNat + 1)) := fun c mem =>
      signless c (List.mem_of_mem_drop mem)
    refine .signless (List.forall_mem_append.mpr
      ⟨List.forall_mem_append.mpr ⟨before, zeros _⟩, List.forall_mem_cons.mpr ⟨rfl, ?_⟩⟩) (by simp)
    split
    · exact List.forall_mem_singleton.mpr rfl
    · exact after

theorem scientific (signed : Bool) {digits : List Char} (signless : Signless digits)
    (magnitude : Int) : Unsigned (Decimal.scientific signed digits magnitude) := by
  have power : Calm (((if magnitude < 0 then ['-'] else if signed then ['+'] else []) ++
      Nat.toDigits 10 magnitude.natAbs).map .other) := by
    have digits := Unsigned.digits magnitude.natAbs
    split_ifs
    · exact digits.negated
    · exact (Unsigned.append (.signless (List.forall_mem_singleton.mpr rfl) (List.cons_ne_nil '+' [])) digits.calm).calm
    · exact digits.calm
  have exponent : Signless ['e'] := .of_all (by decide)
  have behind {mantissa : List Char} (signless : Signless mantissa) : Unsigned (mantissa ++ 'e' ::
      (if magnitude < 0 then ['-'] else if signed then ['+'] else []) ++ Nat.toDigits 10 magnitude.natAbs) := by
    have front := Unsigned.signless (List.forall_mem_append.mpr ⟨signless, exponent⟩)
      (List.append_ne_nil_of_right_ne_nil _ (List.cons_ne_nil _ _))
    have whole := front.append power
    rw [List.append_assoc] at whole ⊢
    exact whole
  cases digits with
  | nil => exact behind signless
  | cons first rest =>
    obtain ⟨own, others⟩ := List.forall_mem_cons.mp signless
    refine behind (?_ : Signless (if rest.isEmpty then [first] else first :: '.' :: rest))
    split
    · exact List.forall_mem_singleton.mpr own
    · exact List.forall_mem_cons.mpr ⟨own, List.forall_mem_cons.mpr ⟨rfl, others⟩⟩

theorem positive (layout : Decimal.Layout) (b : Decimal.Binary) : Unsigned (layout.positive b) := by
  have digits (number : Decimal.Number) : Signless (Decimal.significantDigits number) := fun c mem =>
    signless_toDigits number.digits c <| List.mem_reverse.mp <|
      (List.dropWhile_sublist _).subset (List.mem_reverse.mp mem)
  rw [Decimal.Layout.positive]
  split
  · exact writtenOut (digits _) _
  · exact scientific _ (digits _) _

end Unsigned

namespace Calm

theorem int (value : Int) : Calm ((toString value).toList.map .other) := by
  rw [Int.toString_eq_repr]
  cases value with
  | ofNat value =>
    rw [Int.repr, Nat.toList_repr]
    exact (Unsigned.digits value).calm
  | negSucc value =>
    rw [Int.repr, String.toList_append, Nat.toList_repr]
    exact (Unsigned.digits _).negated

end Calm

/-- A number that is not negative, without its sign. -/
theorem Unsigned.float (layout : Decimal.Layout) {x : Float} (positive : Decimal.isNegative x = false) :
    Unsigned (layout.text x) := by
  rw [Decimal.Layout.text, if_neg (by simp [positive])]
  split
  · exact .signless (.of_all (by decide)) (List.cons_ne_nil _ _)
  · exact .positive layout _

theorem Calm.float (layout : Decimal.Layout) (x : Float) : Calm ((layout.text x).map .other) := by
  have unsigned (b : Decimal.Binary) : Unsigned (if b.significand = 0 then ['0', '.', '0'] else layout.positive b) := by
    split
    · exact .signless (.of_all (by decide)) (List.cons_ne_nil _ _)
    · exact .positive layout b
  rw [Decimal.Layout.text]
  split
  · exact (unsigned _).negated
  · exact (unsigned _).calm

end PortableSql
