import PortableSql.Syntax.Operator
import PortableSql.Text.Digits

/-! The words and signs of a condition.

A text falls into runs of characters of one kind; blanks only keep runs apart. A run is a number, a
keyword in any case, a plain name, an operator or a parenthesis, or the text is no condition. A run is
found again in a text that goes on with a character of another kind (`CharRun.all_append`).
-/

set_option autoImplicit false

namespace PortableSql

inductive CharKind where
  | blank
  | word
  | relation
  | opening
  | closing
  | other
  deriving DecidableEq, Repr

namespace CharKind

def isWord (c : Char) : Bool :=
  c.isAlphanum || c == '_' || c == '-'

def of (c : Char) : CharKind :=
  if isWord c then .word
  else if c = ' ' then .blank
  else if c = '=' ∨ c = '<' ∨ c = '>' then .relation
  else if c = '(' then .opening
  else if c = ')' then .closing
  else .other

-- Whether neighbours of the kind belong together.
def joins : CharKind → Bool
  | .word | .relation => true
  | _ => false

theorem of_isWord {c : Char} (word : isWord c = true) : of c = .word := by
  simp [of, word]

end CharKind

structure CharRun where
  kind : CharKind
  chars : List Char
  deriving DecidableEq, Repr

namespace CharRun

-- Put a character in front of runs.
def push (c : Char) : List CharRun → List CharRun
  | [] => [⟨.of c, [c]⟩]
  | first :: rest =>
    if first.kind.joins && first.kind == .of c then ⟨first.kind, c :: first.chars⟩ :: rest
    else ⟨.of c, [c]⟩ :: first :: rest

def all (text : List Char) : List CharRun :=
  text.foldr push []

theorem all_cons (c : Char) (text : List Char) : all (c :: text) = push c (all text) := rfl

theorem kind_of_push {c : Char} {runs : List CharRun} {first : CharRun}
    (head : (push c runs).head? = some first) : first.kind = .of c := by
  cases runs with
  | nil =>
    cases head
    rfl
  | cons next rest =>
    by_cases joined : (next.kind.joins && next.kind == .of c) = true
    · rw [push, if_pos joined] at head
      cases head
      simp only [Bool.and_eq_true, beq_iff_eq] at joined
      exact joined.2
    · rw [push, if_neg joined] at head
      cases head
      rfl

-- A character that stands by itself.
theorem all_cons_of_alone {c : Char} (alone : (CharKind.of c).joins = false) (text : List Char) :
    all (c :: text) = ⟨.of c, [c]⟩ :: all text := by
  rw [all_cons]
  cases all text with
  | nil => rfl
  | cons first rest =>
    rw [push, if_neg]
    intro joined
    simp only [Bool.and_eq_true, beq_iff_eq] at joined
    rw [← joined.2, joined.1] at alone
    contradiction

/-- A run ends where a character of another kind follows. -/
theorem all_append {kind : CharKind} (joins : kind.joins = true) {chars : List Char}
    (uniform : ∀ c ∈ chars, CharKind.of c = kind) (inhabited : chars ≠ []) {rest : List Char}
    (ended : ∀ c ∈ rest.head?, CharKind.of c ≠ kind) :
    all (chars ++ rest) = ⟨kind, chars⟩ :: all rest := by
  induction chars with
  | nil => contradiction
  | cons c chars ih =>
    have isKind : CharKind.of c = kind := uniform c List.mem_cons_self
    cases chars with
    | nil =>
      cases rest with
      | nil => simp [all, push, isKind]
      | cons d rest =>
        have other : CharKind.of d ≠ kind := ended d rfl
        rw [List.singleton_append, all_cons]
        cases runs : all (d :: rest) with
        | nil => simp [push, isKind]
        | cons first more =>
          have firstKind : first.kind = .of d := kind_of_push (by rw [← all_cons, runs]; rfl)
          rw [push, if_neg, isKind]
          intro joined
          simp_all
    | cons c' chars =>
      have later := ih (fun d mem => uniform d (List.mem_cons_of_mem c mem)) (List.cons_ne_nil c' chars)
      rw [List.cons_append, all_cons, later]
      simp [push, joins, isKind]

end CharRun

inductive Keyword where
  | and
  | or
  | not
  | is
  | null
  | distinct
  | fromWord
  deriving DecidableEq, Repr

namespace Keyword

def all : List Keyword :=
  [.and, .or, .not, .is, .null, .distinct, .fromWord]

def text : Keyword → String
  | .and => "and"
  | .or => "or"
  | .not => "not"
  | .is => "is"
  | .null => "null"
  | .distinct => "distinct"
  | .fromWord => "from"

def ofChars? (chars : List Char) : Option Keyword :=
  all.find? fun keyword => keyword.text.toList == chars.map Char.toLower

end Keyword

/-- Words that are no names: the keywords, the names of constants, and the words of other tests. -/
def reservedWords : List String :=
  Keyword.all.map Keyword.text
    ++ ["true", "false", "in", "like", "between", "exists", "any", "all", "some", "case", "select"]

def isPlainName : List Char → Bool
  | [] => false
  | first :: rest =>
    (first.isAlpha || first == '_') && rest.all (fun c => c.isAlphanum || c == '_')
      && !(reservedWords.map String.toList).contains ((first :: rest).map Char.toLower)

-- A name that needs no quotes.
structure PlainName where
  text : String
  plain : isPlainName text.toList = true
  deriving DecidableEq, Repr

inductive Term where
  | column (name : PlainName)
  | number (value : Int)
  deriving DecidableEq, Repr

def Term.text : Term → String
  | .column name => name.text
  | .number value => toString value

def natural? (digits : List Char) : Option Nat :=
  if digits.isEmpty || !digits.all Char.isDigit then none else some (Text.ofDigits digits)

def integer? : List Char → Option Int
  | [] => none
  | first :: rest =>
    if first = '-' then (natural? rest).map fun n => -(n : Int)
    else (natural? (first :: rest)).map fun n => (n : Int)

inductive Lexeme where
  | opening
  | closing
  | keyword (keyword : Keyword)
  | relation (op : ComparisonOp)
  | term (term : Term)
  deriving DecidableEq, Repr

namespace Lexeme

/-- The lexeme that a word is: a number, a keyword or a name. -/
def ofWord? (chars : List Char) : Option Lexeme :=
  match integer? chars with
  | some value => some (.term (.number value))
  | none =>
    match Keyword.ofChars? chars with
    | some word => some (.keyword word)
    | none =>
      if plain : isPlainName chars = true then
        some (.term (.column ⟨String.ofList chars, by rw [String.toList_ofList]; exact plain⟩))
      else none

def signs : List ComparisonOp := [.eq, .ne, .lt, .lte, .gt, .gte]

def ofRun? : CharRun → Option Lexeme
  | ⟨.opening, _⟩ => some .opening
  | ⟨.closing, _⟩ => some .closing
  | ⟨.relation, chars⟩ => (signs.find? fun op => op.text.toList == chars).map .relation
  | ⟨.word, chars⟩ => ofWord? chars
  | ⟨.blank, _⟩ | ⟨.other, _⟩ => none

def all? (text : List Char) : Option (List Lexeme) :=
  ((CharRun.all text).filter (·.kind != .blank)).mapM ofRun?

theorem all?_of_run {run : CharRun} {chars rest : List Char} {lexeme : Lexeme}
    (runs : CharRun.all (chars ++ rest) = run :: CharRun.all rest) (visible : run.kind ≠ .blank)
    (read : ofRun? run = some lexeme) : all? (chars ++ rest) = (all? rest).map (lexeme :: ·) := by
  have kept : (run.kind != .blank) = true := by simpa using visible
  simp only [all?, runs, List.filter_cons, if_pos kept, List.mapM_cons, read]
  cases List.mapM ofRun? (List.filter (·.kind != .blank) (CharRun.all rest)) <;> rfl

theorem all?_blank (rest : List Char) : all? (' ' :: rest) = all? rest := by
  rw [all?, CharRun.all_cons_of_alone rfl]
  rfl

theorem all?_opening (rest : List Char) : all? ('(' :: rest) = (all? rest).map (.opening :: ·) := by
  have runs : CharRun.all (['('] ++ rest) = ⟨.opening, ['(']⟩ :: CharRun.all rest :=
    CharRun.all_cons_of_alone rfl rest
  exact all?_of_run runs nofun rfl

theorem all?_closing (rest : List Char) : all? (')' :: rest) = (all? rest).map (.closing :: ·) := by
  have runs : CharRun.all ([')'] ++ rest) = ⟨.closing, [')']⟩ :: CharRun.all rest :=
    CharRun.all_cons_of_alone rfl rest
  exact all?_of_run runs nofun rfl

theorem all?_word {chars : List Char} {lexeme : Lexeme} (word : chars.all CharKind.isWord = true)
    (read : ofWord? chars = some lexeme) {rest : List Char}
    (ended : ∀ c ∈ rest.head?, CharKind.of c ≠ .word) :
    all? (chars ++ rest) = (all? rest).map (lexeme :: ·) := by
  have inhabited : chars ≠ [] := by
    rintro rfl
    have nothing : ofWord? [] = none := by decide +kernel
    rw [nothing] at read
    contradiction
  have uniform : ∀ c ∈ chars, CharKind.of c = .word := fun c mem =>
    CharKind.of_isWord (List.all_eq_true.mp word c mem)
  exact all?_of_run (CharRun.all_append rfl uniform inhabited ended) nofun read

theorem all?_sign {op : ComparisonOp} (plain : op.isDistinctness = false) {rest : List Char}
    (ended : ∀ c ∈ rest.head?, CharKind.of c ≠ .relation) :
    all? (op.text.toList ++ rest) = (all? rest).map (.relation op :: ·) := by
  have signs : op.text.toList.all (fun c => CharKind.of c == .relation) = true := by
    cases op <;> first | rfl | contradiction
  have uniform : ∀ c ∈ op.text.toList, CharKind.of c = .relation := fun c mem =>
    eq_of_beq (List.all_eq_true.mp signs c mem)
  have inhabited : op.text.toList ≠ [] := by cases op <;> nofun
  have read : ofRun? ⟨.relation, op.text.toList⟩ = some (.relation op) := by
    cases op <;> first | rfl | contradiction
  exact all?_of_run (CharRun.all_append rfl uniform inhabited ended) nofun read

theorem ofWord?_keyword (keyword : Keyword) :
    ofWord? keyword.text.toList = some (.keyword keyword) := by
  cases keyword <;> decide +kernel

theorem natural?_toDigits (value : Nat) : natural? (Nat.toDigits 10 value) = some value := by
  have digits : (Nat.toDigits 10 value).all Char.isDigit = true :=
    List.all_eq_true.mpr fun c mem => Nat.isDigit_of_mem_toDigits (by decide) (by decide) mem
  simp [natural?, digits, Nat.toDigits_ne_nil, Text.ofDigits]

theorem integer?_toDigits (value : Nat) : integer? (Nat.toDigits 10 value) = some (value : Int) := by
  cases digits : Nat.toDigits 10 value with
  | nil => exact absurd digits Nat.toDigits_ne_nil
  | cons first rest =>
    have digit : first.isDigit = true :=
      by
      have first_mem : first ∈ Nat.toDigits 10 value := by rw [digits]; exact List.mem_cons_self
      exact Nat.isDigit_of_mem_toDigits (by decide) (by decide) first_mem
    have unsigned : first ≠ '-' := by
      rintro rfl
      contradiction
    rw [integer?, if_neg unsigned, ← digits, natural?_toDigits]
    rfl

theorem integer?_toString (value : Int) : integer? (toString value).toList = some value := by
  rw [Int.toString_eq_repr]
  cases value with
  | ofNat value =>
    rw [Int.repr, Nat.toList_repr, integer?_toDigits]
    rfl
  | negSucc value =>
    rw [Int.repr, String.toList_append, Nat.toList_repr]
    have sign : "-".toList = ['-'] := rfl
    rw [sign, List.singleton_append, integer?, if_pos rfl, natural?_toDigits]
    rfl

theorem isDigit_of_isAlpha {c : Char} (letter : c.isAlpha = true) : c.isDigit = false := by
  have bound : 65 ≤ c.val.toNat := by
    rcases (Bool.or_eq_true c.isUpper c.isLower).mp letter with upper | lower
    · exact UInt32.le_iff_toNat_le.mp (of_decide_eq_true upper).1
    · have small : 97 ≤ c.val.toNat :=
        UInt32.le_iff_toNat_le.mp (of_decide_eq_true ((Bool.and_eq_true_iff.mp lower).1))
      omega
  refine Bool.eq_false_iff.mpr fun digit => ?_
  have nine : c.val.toNat ≤ 57 :=
    UInt32.le_iff_toNat_le.mp (of_decide_eq_true ((Bool.and_eq_true_iff.mp digit).2))
  omega

theorem integer?_of_name {chars : List Char} (plain : isPlainName chars = true) :
    integer? chars = none := by
  cases chars with
  | nil => rfl
  | cons first rest =>
    simp only [isPlainName, Bool.and_eq_true, Bool.or_eq_true, beq_iff_eq] at plain
    obtain ⟨⟨letter, _⟩, _⟩ := plain
    have unsigned : first ≠ '-' := by
      rintro rfl
      rcases letter with letter | letter <;> contradiction
    have noDigit : first.isDigit = false := by
      rcases letter with letter | rfl
      · exact isDigit_of_isAlpha letter
      · rfl
    simp [integer?, unsigned, natural?, noDigit]

theorem keyword?_of_name {chars : List Char} (plain : isPlainName chars = true) :
    Keyword.ofChars? chars = none := by
  cases chars with
  | nil => contradiction
  | cons first rest =>
    simp only [isPlainName, Bool.and_eq_true, Bool.not_eq_true', List.contains_eq_mem,
      decide_eq_false_iff_not] at plain
    refine List.find?_eq_none.mpr fun keyword mem same => plain.2 ?_
    rw [← beq_iff_eq.mp same]
    exact List.mem_map_of_mem (List.mem_append_left _ (List.mem_map_of_mem mem))

theorem ofWord?_term (term : Term) : ofWord? term.text.toList = some (.term term) := by
  cases term with
  | number value => rw [ofWord?, Term.text, integer?_toString]
  | column name =>
    rw [ofWord?, Term.text, integer?_of_name name.plain, keyword?_of_name name.plain]
    simp [name.plain]

theorem isWord_term (term : Term) : term.text.toList.all CharKind.isWord = true := by
  have ofDigit (value : Nat) : (Nat.toDigits 10 value).all CharKind.isWord = true := by
    refine List.all_eq_true.mpr fun c mem => ?_
    have digit : c.isDigit = true := Nat.isDigit_of_mem_toDigits (by decide) (by decide) mem
    simp [CharKind.isWord, Char.isAlphanum, digit]
  cases term with
  | number value =>
    rw [Term.text, Int.toString_eq_repr]
    cases value with
    | ofNat value =>
      rw [Int.repr, Nat.toList_repr]
      exact ofDigit value
    | negSucc value =>
      rw [Int.repr, String.toList_append, Nat.toList_repr, List.all_append, ofDigit]
      rfl
  | column name =>
    have plain := name.plain
    refine List.all_eq_true.mpr fun c mem => ?_
    cases chars : name.text.toList with
    | nil =>
      rw [Term.text, chars] at mem
      contradiction
    | cons first rest =>
      rw [chars] at plain
      simp only [isPlainName, Bool.and_eq_true, Bool.or_eq_true, List.all_eq_true] at plain
      rw [Term.text, chars] at mem
      simp only [CharKind.isWord, Bool.or_eq_true]
      rcases List.mem_cons.mp mem with rfl | mem
      · exact Or.inl (plain.1.1.imp_left fun letter => by simp [Char.isAlphanum, letter])
      · exact Or.inl (plain.1.2 c mem)

end Lexeme

end PortableSql
