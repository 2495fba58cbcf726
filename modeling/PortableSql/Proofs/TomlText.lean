import Mathlib.Data.List.Basic
import PortableSql.Toml.Printer

/-! Texts and keys of a TOML document read back.

Each character between double quotes is read back on its own, whether it is escaped or not. Between three
quotes a row of them is only known to be the end of the text by what stands behind it, so that the quotes that
were written last are carried along. Every text has a form in quotes that is read back
(`string?_textValue`), and every path of names a form as a key (`keyParts?_names`).
-/

set_option autoImplicit false

namespace PortableSql.Toml

open Text

theorem hexDigit?_digitChar : ∀ digit < 16, hexDigit? (Nat.digitChar digit).toUpper = some digit := by decide

theorem hexNumber?_hexDigits {n : Nat} (fits : n < 65536) : hexNumber? (hexDigits n) = some n := by
  have first := hexDigit?_digitChar (n / 4096) (by omega)
  have second := hexDigit?_digitChar (n / 256 % 16) (by omega)
  have third := hexDigit?_digitChar (n / 16 % 16) (by omega)
  have last := hexDigit?_digitChar (n % 16) (by omega)
  simp only [hexNumber?, hexDigits, List.map_cons, List.map_nil, List.foldlM_cons, List.foldlM_nil, first, second,
    third, last, Option.map_some, Option.bind_eq_bind, Option.bind_some, Option.pure_def, Option.some.injEq]
  omega

theorem scalar?_hexDigits {c : Char} (fits : c.toNat < 65536) : scalar? (hexDigits c.toNat) = some c := by
  have valid : c.toNat.isValidChar := c.valid
  simp [scalar?, hexNumber?_hexDigits fits, valid]

/-- An escaped character is one with a letter of its own, a plain one, or another control character. -/
theorem escapeChar_cases {motive : Char → List Char → Prop} (c : Char)
    (letter : ∀ letter c, shortEscape? letter = some c → motive c ['\\', letter])
    (plain : ∀ c, isPlain c = true → c ≠ '"' → c ≠ '\\' → motive c [c])
    (control : ∀ c, c.toNat < 128 → motive c ('\\' :: 'u' :: hexDigits c.toNat)) : motive c (escapeChar c) := by
  unfold escapeChar
  split
  · next same => exact same ▸ letter '"' '"' rfl
  split
  · next same => exact same ▸ letter '\\' '\\' rfl
  split
  · next same => exact same ▸ letter 'b' '\x08' rfl
  split
  · next same => exact same ▸ letter 't' '\t' rfl
  split
  · next same => exact same ▸ letter 'n' '\n' rfl
  split
  · next same => exact same ▸ letter 'f' '\x0c' rfl
  split
  · next same => exact same ▸ letter 'r' '\r' rfl
  split
  · next quote slash _ _ _ _ _ fits => exact plain c fits quote slash
  · next special =>
    apply control
    simp only [isPlain, Bool.or_eq_true, beq_iff_eq, Bool.and_eq_true, decide_eq_true_eq, bne_iff_ne, not_or,
      not_and] at special
    omega

/-! Texts between single marks. -/

theorem basic_escapeChar (c : Char) (rest : List Char) :
    basic (escapeChar c ++ rest) = withChar c (basic rest) := by
  apply escapeChar_cases (motive := fun c escaped => basic (escaped ++ rest) = withChar c (basic rest))
  case letter =>
    intro letter c escape
    have apart : letter ≠ 'u' ∧ letter ≠ 'U' := by
      constructor <;> rintro rfl <;> contradiction
    simp [basic, apart, escape]
  case plain =>
    intro c plain quote slash
    simp [basic, plain, slash]
  case control =>
    intro c low
    have read := scalar?_hexDigits (c := c) (by omega)
    simp only [hexDigits, List.map_cons, List.map_nil] at read
    simp [basic, hexDigits, read]

theorem basic_escaped (text rest : List Char) :
    basic (text.flatMap escapeChar ++ '"' :: rest) = some (text, rest) := by
  induction text with
  | nil => rfl
  | cons c text ih =>
    rw [List.flatMap_cons, List.append_assoc, basic_escapeChar, ih]
    rfl

theorem plainString_plain {text : List Char} (plain : ∀ c ∈ text, isPlain c = true ∧ c ≠ '\'') (rest : List Char) :
    plainString (text ++ '\'' :: rest) = some (text, rest) := by
  induction text with
  | nil => rfl
  | cons c text ih =>
    obtain ⟨⟨own, quote⟩, others⟩ := List.forall_mem_cons.mp plain
    simp [plainString, own, ih others, withChar]

/-! Texts between three marks. -/

/-- A text that is read after a row of quotes. -/
def withRow (quote : Char) (count : Nat) (read : Option (List Char × List Char)) :
    Option (List Char × List Char) :=
  read.map fun (content, rest) => (List.replicate count quote ++ content, rest)

theorem replicate_append_cons (quote : Char) (count : Nat) (rest : List Char) :
    List.replicate count quote ++ quote :: rest = List.replicate (count + 1) quote ++ rest := by
  rw [List.replicate_succ', List.append_assoc]
  rfl

theorem withRow_withChar {quote : Char} {count : Nat} {c : Char} {text rest : List Char}
    {read : Option (List Char × List Char)} (same : read = some (text, rest)) :
    withRow quote count (withChar c read) = some (List.replicate count quote ++ c :: text, rest) := by
  rw [same]
  rfl

theorem longBasic_line (rest : List Char) : longBasic .off ('\n' :: rest) = withChar '\n' (longBasic .off rest) := by
  simp [longBasic]

theorem longBasic_escapeChar {c : Char} (quote : c ≠ '"') (line : c ≠ '\n') (rest : List Char) :
    longBasic .off (escapeChar c ++ rest) = withChar c (longBasic .off rest) := by
  revert quote line
  apply escapeChar_cases (motive := fun c escaped => c ≠ '"' → c ≠ '\n' →
    longBasic .off (escaped ++ rest) = withChar c (longBasic .off rest))
  case letter =>
    intro letter c escape quote line
    have apart : letter ≠ 'u' ∧ letter ≠ 'U' ∧ letter ≠ '\n' ∧ letter ≠ '\r' := by
      refine ⟨?_, ?_, ?_, ?_⟩ <;> rintro rfl <;> contradiction
    simp [longBasic, apart, escape]
  case plain =>
    intro c plain quote slash _ line
    have carriage : c ≠ '\r' := by
      rintro rfl
      contradiction
    simp [longBasic, plain, slash, carriage, quote]
  case control =>
    intro c low _ _
    have read := scalar?_hexDigits (c := c) (by omega)
    simp only [hexDigits, List.map_cons, List.map_nil] at read
    simp [longBasic, hexDigits, read]

theorem longBasic_escaped_quote (rest : List Char) :
    longBasic .off ('\\' :: '"' :: rest) = withChar '"' (longBasic .off rest) := by
  simp [longBasic, shortEscape?]

/-- Up to two quotes are part of the text if another character follows. -/
theorem longBasic_row {count : Nat} (few : count ≤ 2) {c : Char} (other : c ≠ '"') (rest : List Char) :
    longBasic .off (List.replicate count '"' ++ c :: rest) = withRow '"' count (longBasic .off (c :: rest)) := by
  have plain : isPlain '"' = true := rfl
  match count with
  | 0 => simp [withRow]
  | 1 => simp [longBasic, withRow, withChar, plain, other]
  | 2 => simp [longBasic, withRow, withChar, plain, other, Function.comp_def]

theorem longBasic_closing {count : Nat} (few : count ≤ 2) {rest : List Char} (other : rest.head? ≠ some '"') :
    longBasic .off (List.replicate count '"' ++ ['"', '"', '"'] ++ rest) = some (List.replicate count '"', rest) := by
  match count, rest with
  | 0, [] | 1, [] | 2, [] => simp [longBasic]
  | 0, c :: rest | 1, c :: rest | 2, c :: rest =>
    have apart : c ≠ '"' := by simpa using other
    simp [longBasic, apart]

/-- What a character is written as begins with none of the characters that end a text or a line. -/
theorem escapeChar_head (c : Char) :
    ∃ head tail, escapeChar c = head :: tail ∧ head ≠ '"' ∧ head ≠ '\n' ∧ head ≠ '\r' := by
  apply escapeChar_cases (motive := fun _ escaped =>
    ∃ head tail, escaped = head :: tail ∧ head ≠ '"' ∧ head ≠ '\n' ∧ head ≠ '\r')
  case letter => exact fun _ _ _ => ⟨_, _, rfl, by decide⟩
  case plain =>
    intro c plain quote _
    refine ⟨c, [], rfl, quote, ?_, ?_⟩ <;> rintro rfl <;> contradiction
  case control => exact fun _ _ => ⟨_, _, rfl, by decide⟩

theorem longBasic_escapeLong {count : Nat} (few : count ≤ 2) (text : List Char) {rest : List Char}
    (other : rest.head? ≠ some '"') :
    longBasic .off (List.replicate count '"' ++ (escapeLong count text ++ (['"', '"', '"'] ++ rest))) =
      some (List.replicate count '"' ++ text, rest) := by
  induction text generalizing count with
  | nil =>
    rw [escapeLong, List.nil_append, ← List.append_assoc, longBasic_closing few other, List.append_nil]
  | cons c text ih =>
    by_cases quote : c = '"'
    · subst quote
      rw [escapeLong]
      split
      next room =>
        rw [List.cons_append, replicate_append_cons, ih (by omega), replicate_append_cons]
      next full =>
        have none := @ih 0 (by omega)
        rw [List.cons_append, List.cons_append, longBasic_row few (by decide), longBasic_escaped_quote]
        exact withRow_withChar none
    · by_cases line : c = '\n'
      · subst line
        have none := @ih 0 (by omega)
        rw [escapeLong, List.cons_append, longBasic_row few (by decide), longBasic_line]
        exact withRow_withChar none
      · have none := @ih 0 (by omega)
        obtain ⟨head, tail, split, apart, -⟩ := escapeChar_head c
        have read := longBasic_escapeChar quote line (escapeLong 0 text ++ (['"', '"', '"'] ++ rest))
        have step : escapeLong count (c :: text) = escapeChar c ++ escapeLong 0 text := by
          rw [escapeLong]
          · exact quote
          · exact line
        rw [split, List.cons_append] at read
        rw [step, split, List.append_assoc, List.cons_append, longBasic_row few apart, read]
        exact withRow_withChar none

theorem longPlain_plain {c : Char} (plain : isPlain c = true) (quote : c ≠ '\'') (rest : List Char) :
    longPlain (c :: rest) = withChar c (longPlain rest) := by
  have apart : c ≠ '\n' ∧ c ≠ '\r' := by
    constructor <;> rintro rfl <;> contradiction
  simp [longPlain, plain, quote, apart]

theorem longPlain_row {count : Nat} (few : count ≤ 2) {c : Char} (other : c ≠ '\'') (rest : List Char) :
    longPlain (List.replicate count '\'' ++ c :: rest) = withRow '\'' count (longPlain (c :: rest)) := by
  have plain : isPlain '\'' = true := rfl
  match count with
  | 0 => simp [withRow]
  | 1 => simp [longPlain, withRow, withChar, plain, other]
  | 2 => simp [longPlain, withRow, withChar, plain, other, Function.comp_def]

theorem longPlain_closing {count : Nat} (few : count ≤ 2) {rest : List Char} (other : rest.head? ≠ some '\'') :
    longPlain (List.replicate count '\'' ++ ['\'', '\'', '\''] ++ rest) =
      some (List.replicate count '\'', rest) := by
  match count, rest with
  | 0, [] | 1, [] | 2, [] => simp [longPlain]
  | 0, c :: rest | 1, c :: rest | 2, c :: rest =>
    have apart : c ≠ '\'' := by simpa using other
    simp [longPlain, apart]

theorem le_longestRow (quote : Char) (row : Nat) (text : List Char) : row ≤ longestRow quote row text := by
  induction text generalizing row with
  | nil => exact Nat.le_refl _
  | cons c text ih =>
    rw [longestRow]
    split
    · exact Nat.le_trans (Nat.le_succ row) (ih (row + 1))
    · exact Nat.le_max_left _ _

theorem longPlain_text {count : Nat} {text : List Char} (plain : ∀ c ∈ text, isPlain c = true ∨ c = '\n')
    (rows : longestRow '\'' count text ≤ 2) {rest : List Char} (other : rest.head? ≠ some '\'') :
    longPlain (List.replicate count '\'' ++ (text ++ (['\'', '\'', '\''] ++ rest))) =
      some (List.replicate count '\'' ++ text, rest) := by
  induction text generalizing count with
  | nil =>
    rw [List.nil_append, ← List.append_assoc, longPlain_closing (Nat.le_trans (le_longestRow _ _ _) rows) other,
      List.append_nil]
  | cons c text ih =>
    obtain ⟨own, others⟩ := List.forall_mem_cons.mp plain
    rw [longestRow] at rows
    split at rows
    next quote =>
      subst quote
      rw [List.cons_append, replicate_append_cons, ih others rows, replicate_append_cons]
    next quote =>
      have few : count ≤ 2 := by omega
      have none := @ih 0 others (by omega)
      have read : longPlain (c :: (text ++ (['\'', '\'', '\''] ++ rest))) =
          withChar c (longPlain (text ++ (['\'', '\'', '\''] ++ rest))) := by
        rcases own with own | rfl
        · exact longPlain_plain own quote _
        · simp [longPlain]
      rw [List.cons_append, longPlain_row few quote, read]
      exact withRow_withChar none

/-! Texts in the quotes that are chosen for them. -/

theorem dropNewLine_cons {c : Char} (line : c ≠ '\n') (carriage : c ≠ '\r') (rest : List Char) :
    dropNewLine (c :: rest) = c :: rest := by
  simp [dropNewLine, newLine?, line, carriage]

theorem dropNewLine_escapeLong {text : List Char} (line : '\n' ∉ text) (rest : List Char) :
    dropNewLine (escapeLong 0 text ++ '"' :: rest) = escapeLong 0 text ++ '"' :: rest := by
  cases text with
  | nil => rfl
  | cons c text =>
    by_cases quote : c = '"'
    · subst quote
      rw [escapeLong, if_pos (by decide), List.cons_append, dropNewLine_cons (by decide) (by decide)]
    · obtain ⟨head, tail, split, -, apart, apart'⟩ := escapeChar_head c
      have step : escapeLong 0 (c :: text) = escapeChar c ++ escapeLong 0 text := by
        rw [escapeLong]
        · exact quote
        · rintro rfl
          exact line List.mem_cons_self
      rw [step, split, List.cons_append, List.cons_append, dropNewLine_cons apart apart']

theorem dropNewLine_plain {text : List Char} (plain : ∀ c ∈ text, isPlain c = true) (rest : List Char) :
    dropNewLine (text ++ '\'' :: rest) = text ++ '\'' :: rest := by
  cases text with
  | nil => rfl
  | cons c text =>
    have own := plain c List.mem_cons_self
    rw [List.cons_append, dropNewLine_cons] <;> rintro rfl <;> contradiction

namespace Quoting

/-- Whether a text may stand in these quotes: it has to suit those that have no escapes. -/
def Admits (quoting : Quoting) (text : List Char) : Prop :=
  match quoting with
  | .basic | .longBasic => True
  | .plain | .longPlain => suits text quoting = true

variable {text rest : List Char}

theorem string?_basic (other : rest.head? ≠ some '"') :
    string? (basic.write text ++ rest) = some (text, rest) := by
  have read := basic_escaped text rest
  cases text with
  | nil =>
    cases rest with
    | nil => rfl
    | cons c rest =>
      have apart : c ≠ '"' := by simpa using other
      simp [write, marks, body, string?, apart, Toml.basic]
  | cons c text =>
    obtain ⟨head, tail, split, apart, -⟩ := escapeChar_head c
    rw [List.flatMap_cons, split] at read
    simpa [write, marks, body, string?, split, apart] using read

theorem string?_plain (suited : suits text plain = true) (other : rest.head? ≠ some '\'') :
    string? (plain.write text ++ rest) = some (text, rest) := by
  have each : ∀ c ∈ text, isPlain c = true ∧ c ≠ '\'' := by simpa [suits] using suited
  have read := plainString_plain each rest
  cases text with
  | nil =>
    cases rest with
    | nil => rfl
    | cons c rest =>
      have apart : c ≠ '\'' := by simpa using other
      simp [write, marks, body, string?, apart, plainString]
  | cons c text =>
    have apart : c ≠ '\'' := (each c List.mem_cons_self).2
    simpa [write, marks, body, string?, apart] using read

theorem string?_longBasic (other : rest.head? ≠ some '"') :
    string? (longBasic.write text ++ rest) = some (text, rest) := by
  have read := longBasic_escapeLong (Nat.zero_le 2) text other
  by_cases line : '\n' ∈ text
  · simpa [write, marks, body, string?, line, dropNewLine, newLine?] using read
  · have stays := dropNewLine_escapeLong line ('"' :: '"' :: rest)
    simpa [write, marks, body, string?, line, stays] using read

theorem string?_longPlain (suited : suits text longPlain = true) (other : rest.head? ≠ some '\'') :
    string? (longPlain.write text ++ rest) = some (text, rest) := by
  obtain ⟨each, rows⟩ : (∀ c ∈ text, isPlain c = true ∨ c = '\n') ∧ longestRow '\'' 0 text ≤ 2 := by
    simpa [suits] using suited
  have read := longPlain_text each rows other
  by_cases line : '\n' ∈ text
  · simpa [write, marks, body, string?, line, dropNewLine, newLine?] using read
  · have plain (c : Char) (mem : c ∈ text) : isPlain c = true :=
      (each c mem).resolve_right fun same => line (same ▸ mem)
    have stays := dropNewLine_plain plain ('\'' :: '\'' :: rest)
    simpa [write, marks, body, string?, line, stays] using read

theorem string?_write {quoting : Quoting} (admits : quoting.Admits text) (double : rest.head? ≠ some '"')
    (single : rest.head? ≠ some '\'') : string? (quoting.write text ++ rest) = some (text, rest) := by
  cases quoting with
  | basic => exact string?_basic double
  | plain => exact string?_plain admits single
  | longBasic => exact string?_longBasic double
  | longPlain => exact string?_longPlain admits single

/-- A choice among quotes is one of them that suits, or the one to fall back on. -/
theorem choose_cases (ways : List Quoting) (fallback : Quoting) (text : List Char) :
    choose ways fallback text = fallback ∨
      choose ways fallback text ∈ ways ∧ suits text (choose ways fallback text) = true := by
  unfold choose
  cases found : ways.find? (suits text) with
  | none => exact .inl rfl
  | some quoting => exact .inr ⟨List.mem_of_find?_eq_some found, List.find?_some found⟩

theorem choose_admits (ways : List Quoting) {fallback : Quoting} (text : List Char) (escapes : fallback.Admits text) :
    (choose ways fallback text).Admits text := by
  rcases choose_cases ways fallback text with same | ⟨-, suited⟩
  · rw [same]
    exact escapes
  · generalize choose ways fallback text = chosen at suited
    cases chosen with
    | basic | longBasic => trivial
    | plain | longPlain => exact suited

end Quoting

theorem string?_textValue (text : String) (rest : List Char) (double : rest.head? ≠ some '"')
    (single : rest.head? ≠ some '\'') : string? (textValue text ++ rest) = some (text.toList, rest) := by
  unfold textValue
  apply Quoting.string?_write _ double single
  apply Quoting.choose_admits
  split <;> trivial

/-! Keys. -/

def beginsKey (c : Char) : Bool :=
  isKeyChar c || c == '"' || c == '\''

theorem ne_of_beginsKey {c d : Char} (begins : beginsKey c = true) (other : beginsKey d = false) : c ≠ d := by
  rintro rfl
  rw [begins] at other
  contradiction

theorem isGap_of_beginsKey {c : Char} (begins : beginsKey c = true) : isGap c = false := by
  have blank : c ≠ ' ' := ne_of_beginsKey begins rfl
  have tab : c ≠ '\t' := ne_of_beginsKey begins rfl
  simp [isGap, blank, tab]

theorem key_eq_cons (name : String) : ∃ head tail, key name = head :: tail ∧ beginsKey head = true := by
  unfold key
  split
  next bare =>
    obtain ⟨inhabited, letters⟩ : name ≠ "" ∧ ∀ c ∈ name.toList, isKeyChar c = true := by simpa using bare
    cases chars : name.toList with
    | nil => exact absurd (String.toList_eq_nil_iff.mp chars) inhabited
    | cons head tail =>
      have letter : isKeyChar head = true := letters head (chars ▸ List.mem_cons_self)
      exact ⟨head, tail, rfl, by simp [beginsKey, letter]⟩
  next =>
    generalize Quoting.choose [.basic, .plain] .basic name.toList = quoting
    cases quoting <;> exact ⟨_, _, rfl, rfl⟩

theorem skipGap_cons {c : Char} (solid : isGap c = false) (rest : List Char) : skipGap (c :: rest) = c :: rest :=
  List.dropWhile_cons_of_neg (by rw [solid]; exact Bool.false_ne_true)

theorem skipGap_key (name : String) (rest : List Char) : skipGap (key name ++ rest) = key name ++ rest := by
  obtain ⟨head, tail, split, begins⟩ := key_eq_cons name
  rw [split, List.cons_append, skipGap_cons (isGap_of_beginsKey begins)]

theorem keyPart?_key (name : String) (rest : List Char) (ended : ∀ c ∈ rest.head?, isKeyChar c = false) :
    keyPart? (key name ++ rest) = some (name, rest) := by
  unfold key
  split
  next bare =>
    obtain ⟨inhabited, letters⟩ : name ≠ "" ∧ ∀ c ∈ name.toList, isKeyChar c = true := by simpa using bare
    have taken : (name.toList ++ rest).takeWhile isKeyChar = name.toList := by
      rw [List.takeWhile_append_of_pos letters]
      cases rest with
      | nil => simp
      | cons c rest => simp [ended c rfl]
    cases chars : name.toList with
    | nil => exact absurd (String.toList_eq_nil_iff.mp chars) inhabited
    | cons head tail =>
      have letter := letters head (chars ▸ List.mem_cons_self)
      have apart : head ≠ '"' ∧ head ≠ '\'' := by
        constructor <;> rintro rfl <;> contradiction
      have same : String.ofList (head :: tail) = name := by rw [← chars, String.ofList_toList]
      rw [chars, List.cons_append] at taken
      simp [keyPart?, apart, taken, same]
  next =>
    rcases Quoting.choose_cases [.basic, .plain] .basic name.toList with same | ⟨mem, suited⟩
    · rw [same]
      simp [Quoting.write, Quoting.marks, Quoting.body, keyPart?, basic_escaped]
    · generalize Quoting.choose [.basic, .plain] .basic name.toList = quoting at mem suited
      cases quoting with
      | basic => simp [Quoting.write, Quoting.marks, Quoting.body, keyPart?, basic_escaped]
      | plain =>
        have each : ∀ c ∈ name.toList, isPlain c = true ∧ c ≠ '\'' := by simpa [Quoting.suits] using suited
        simp [Quoting.write, Quoting.marks, Quoting.body, keyPart?, plainString_plain each]
      | longBasic | longPlain => simp at mem

theorem keyParts?_names {bound : Nat} {path : List String} (inhabited : path ≠ []) (fits : path.length ≤ bound)
    {rest : List Char} (ended : ∀ c ∈ rest.head?, isKeyChar c = false) (last : (skipGap rest).head? ≠ some '.') :
    keyParts? bound (List.intercalate ['.'] (path.map key) ++ rest) = some (path, skipGap rest) := by
  induction path generalizing bound with
  | nil => contradiction
  | cons name path ih =>
    cases bound with
    | zero => contradiction
    | succ bound =>
      cases path with
      | nil =>
        rw [List.map_cons, List.map_nil, List.intercalate_singleton, keyParts?, skipGap_key,
          keyPart?_key name rest ended]
        cases after : skipGap rest with
        | nil => simp [after]
        | cons c behind =>
          have apart : c ≠ '.' := by simpa [after] using last
          simp [after, apart]
      | cons next path =>
        have tail := ih (List.cons_ne_nil _ _) (Nat.le_of_succ_le_succ fits)
        have dot : skipGap ('.' :: (List.intercalate ['.'] ((next :: path).map key) ++ rest)) =
            '.' :: (List.intercalate ['.'] ((next :: path).map key) ++ rest) := skipGap_cons rfl _
        have own := keyPart?_key name ('.' :: (List.intercalate ['.'] ((next :: path).map key) ++ rest))
          (fun c mem => by cases mem; rfl)
        simp only [List.map_cons, List.intercalate_cons_cons, List.append_assoc, List.singleton_append]
          at tail dot own ⊢
        simp [keyParts?, skipGap_key, own, dot, tail]

end PortableSql.Toml
