import PortableSql.Proofs.ComposedPiece
import PortableSql.Proofs.NumeralText

/-! The characters that a renderer writes of its own.

They are few (`isOwnChar`): letters, digits, and what numbers, operators and quotes are made of. Any other
character in a piece is one that was handed to the renderer, in a name, in the content of a string
literal, or in the configuration (`Piece.marks_lack`). Where it may stand in literals, it still stands in no
other mark of a piece (`Keeping.composes`).
-/

set_option autoImplicit false

namespace PortableSql

/-- Whether no name, word or content of a string literal of a piece has a character. -/
def Piece.Lacks (c : Char) (piece : Piece) : Prop :=
  (∀ text ∈ piece.names, c ∉ text.toList) ∧
    ∀ node ∈ piece.nodes, ∀ inner, node.Within inner →
      ∀ text ∈ inner.names ++ inner.strings, c ∉ text.toList

/-- A character that a renderer writes of its own, placeholders apart. -/
def isOwnChar (c : Char) : Bool :=
  isWordChar c || isNumeral c || "/%|'\\".toList.contains c

/-- Whether a character does not stand in a mark outside of literals, and a literal is admitted. -/
def Mark.Keeps (c : Char) (Content : String → Prop) : Mark → Prop
  | .text words => c ∉ words.toList
  | .literal content => Content content
  | _ => True

theorem Mark.keeps_within {c : Char} {Content : String → Prop} {clause : Option Clause} {mark : Mark} :
    (mark.within clause).Keeps c Content ↔ mark.Keeps c Content := by
  cases mark with
  | offer construct around outcome => cases around <;> exact Iff.rfl
  | text | literal | placeholder | table | lock => exact Iff.rfl

/-- The same of the marks of a family with its own contents. -/
def Keeping (c : Char) (Content : String → Prop) (family : Family) : Prop :=
  ∀ mark ∈ (family .own).marks, mark.Keeps c Content

/-- Whether a character does not stand in what a mark was given. -/
def Mark.Lacks (c : Char) : Mark → Prop
  | .text words => c ∉ words.toList
  | .literal content => c ∉ content.toList
  | _ => True

theorem Mark.lacks_within {c : Char} {clause : Option Clause} {mark : Mark} :
    (mark.within clause).Lacks c ↔ mark.Lacks c :=
  @Mark.keeps_within c (fun content => c ∉ content.toList) clause mark

/-- Whether a character does not stand in the marks of a family with its own contents. -/
def Lacking (c : Char) (family : Family) : Prop :=
  ∀ mark ∈ (family .own).marks, mark.Lacks c

theorem not_mem_of_own {c : Char} (foreign : isOwnChar c = false) {text : List Char}
    (own : text.all isOwnChar = true) : c ∉ text :=
  fun mem => Bool.false_ne_true (foreign.symm.trans (List.all_eq_true.mp own c mem))

theorem Numeral.own {text : List Char} (numeral : Numeral text) : text.all isOwnChar = true :=
  List.all_eq_true.mpr fun c mem => by simp [isOwnChar, numeral c mem]

theorem IsWord.own {words : String} (word : IsWord words) : words.toList.all isOwnChar = true :=
  List.all_eq_true.mpr fun c mem => by simp [isOwnChar, List.all_eq_true.mp word.2 c mem]

theorem LiteralEscape.mem_quote {style : LiteralEscape} {text : String} {c : Char}
    (mem : c ∈ (style.quote text).toList) : c ∈ text.toList ∨ isOwnChar c = true := by
  have quote : isOwnChar '\'' = true := by decide
  have escaped (d : Char) (mem : c ∈ style.escape d) : c = d ∨ isOwnChar c = true := by
    have backslash : isOwnChar '\\' = true := by decide
    have letter : isOwnChar 'n' = true := by decide
    unfold escape at mem
    split at mem <;> simp only [List.mem_cons, List.not_mem_nil, or_false] at mem
    all_goals rcases mem with rfl | rfl
    all_goals first | exact .inr ‹_› | exact .inl rfl
  rw [LiteralEscape.quote, String.toList_ofList] at mem
  rcases List.mem_append.mp mem with mem | mem
  · rcases List.mem_cons.mp mem with rfl | mem
    · exact .inr quote
    · obtain ⟨d, inner, mem⟩ := List.mem_flatMap.mp mem
      rcases escaped d mem with rfl | own
      · exact .inl inner
      · exact .inr own
  · exact .inr (List.mem_singleton.mp mem ▸ quote)

theorem Pattern.mem_backslashed {escape c : Char} {text : List Char}
    (mem : c ∈ backslashed escape text) : c ∈ text ∨ c = '\\' := by
  fun_induction backslashed escape text <;> grind

/-- A character that the renderer does not write is in a rewritten pattern from the pattern itself. -/
theorem Pattern.mem_of_mem_backslashed {escape c : Char} {text : String} (foreign : isOwnChar c = false)
    (mem : c ∈ (String.ofList (backslashed escape text.toList)).toList) : c ∈ text.toList := by
  rw [String.toList_ofList] at mem
  rcases mem_backslashed mem with mem | rfl
  · exact mem
  · exact absurd foreign (by decide)

namespace Keeping

variable {config : Config} {c : Char} {Content : String → Prop} {family first second : Family}
  (foreign : isOwnChar c = false)

theorem text {words : String} (absent : c ∉ words.toList) : Keeping c Content fun _ => .text words := by
  intro mark mem
  obtain rfl := List.mem_singleton.mp mem
  exact absent

theorem note {mark : Contents → Mark} (keeps : (mark .own).Keeps c Content) :
    Keeping c Content fun contents => .mark (mark contents) := by
  intro other mem
  obtain rfl := List.mem_singleton.mp mem
  exact keeps

theorem offer (construct : Construct) (outcome : Contents → Outcome) :
    Keeping c Content fun contents => .mark (.offer construct none (outcome contents)) := note trivial

theorem append (left : Keeping c Content first) (right : Keeping c Content second) :
    Keeping c Content fun contents => first contents ++ second contents := by
  intro mark mem
  rw [Fragment.marks_append] at mem
  rcases List.mem_append.mp mem with mem | mem
  · exact left mark mem
  · split at mem
    · exact absurd mem List.not_mem_nil
    · exact right mark mem

theorem inClause (clause : Clause) (keeps : Keeping c Content family) :
    Keeping c Content fun contents => .inClause clause (family contents) := by
  intro mark mem
  obtain ⟨mark, inner, rfl⟩ := List.mem_map.mp mem
  exact Mark.keeps_within.mpr (keeps mark inner)

include foreign

theorem own {words : String} (own : words.toList.all isOwnChar = true) : Keeping c Content fun _ => .text words :=
  text (not_mem_of_own foreign own)

theorem names {names : List String} (absent : ∀ name ∈ names, c ∉ name.toList) :
    Keeping c Content fun _ => .names names := by
  have apart : c ∉ ",".toList := not_mem_of_own foreign (by decide)
  exact text (not_mem_intercalate apart absent)

theorem value (double : c ∉ (config.typeName .double).toList) (value : Value)
    (other : ∀ text, value ≠ .string text) : Keeping c Content fun _ => value.fragment config := by
  have quoted (word : String) {digits : List Char} (numeral : Numeral digits)
      (start : word.toList.all isOwnChar = true) :
      Keeping c Content fun _ => .text (word ++ String.ofList digits ++ "'") := by
    refine own foreign ?_
    simp only [String.toList_append, String.toList_ofList, List.all_append, start, numeral.own]
    decide
  cases value with
  | string text => exact absurd rfl (other text)
  | null => exact own foreign (by decide)
  | bool value => exact own foreign (by cases value <;> decide)
  | int value => exact own foreign (Numeral.toString _).own
  | date value => exact quoted "date '" (Numeral.date value) (by decide)
  | timestamp value => exact quoted "timestamp '" (Numeral.timestamp rfl value) (by decide)
  | float value =>
    refine text ?_
    rw [Value.floatText]
    split
    · rw [String.toList_ofList]
      exact not_mem_of_own foreign (Numeral.float _ value).own
    · have opening : c ∉ "cast('".toList := not_mem_of_own foreign (by decide)
      have middle : c ∉ "' as ".toList := not_mem_of_own foreign (by decide)
      have closing : c ∉ ")".toList := not_mem_of_own foreign (by decide)
      have kind : c ∉ (if value.isNaN then "nan" else if Decimal.isNegative value then "-inf" else "inf").toList := by
        split_ifs <;> exact not_mem_of_own foreign (by decide)
      simp only [String.toList_append, List.mem_append, not_or]
      exact ⟨⟨⟨⟨opening, kind⟩, middle⟩, double⟩, closing⟩

/-- What a renderer puts together has no characters but its own and those that were handed to it; and it has
no literals but those that were, and patterns written for another escape. -/
theorem composes (double : c ∉ (config.typeName .double).toList)
    (backslashed : ∀ {text : String} (escape : Char), Content text →
      Content (String.ofList (Pattern.backslashed escape text.toList))) :
    Composes config (fun name => c ∉ name.toList) Content (fun _ _ => True)
      fun _ family _ => Keeping c Content family where
  nil _ _ mem := absurd mem List.not_mem_nil
  append := append
  weaken keeps _ _ := keeps
  word word := own foreign word.own
  empty _ := own foreign rfl
  name _ := text
  names _ := names foreign
  value := value foreign double
  bucket := own foreign (by decide)
  literal admitted := note admitted
  slot admitted := note admitted
  backslashed := backslashed
  operation op left right _ :=
    ((own foreign (by decide)).append ((left.append (own foreign (by cases op <;> decide))).append right)).append
      (own foreign (by decide))
  placeholder _ := note trivial
  table _ _ := note trivial
  lock _ _ _ := note trivial
  fail _ _ mem := absurd mem List.not_mem_nil
  inClause := inClause
  offered construct keeps := (offer construct _).append keeps
  standard construct keeps := (offer construct _).append keeps
  below _ keeps := keeps
  own keeps := keeps

end Keeping

/-- What a renderer puts together has no characters but its own and those that were handed to it. -/
theorem Lacking.composes {config : Config} {c : Char} (foreign : isOwnChar c = false)
    (double : c ∉ (config.typeName .double).toList) :
    Composes config (fun name => c ∉ name.toList) (fun content => c ∉ content.toList) (fun _ _ => True)
      fun _ family _ => Lacking c family :=
  Keeping.composes foreign double fun _ absent mem => absent (Pattern.mem_of_mem_backslashed foreign mem)

/-- A piece has no characters but those of the renderer and those that were handed to it, whether it is
written to its end or not. -/
theorem Piece.marks_lack {c : Char} (foreign : isOwnChar c = false) {target : Target}
    (plain : ∀ text ∈ target.config.statementTexts, c ∉ text.toList) {piece : Piece} (lacks : piece.Lacks c)
    (clause : Option Clause) : ∀ mark ∈ (piece.fragment target clause).marks, mark.Lacks c := by
  have lowercase := plain target.config.lowercaseFunction (.head _)
  have double := plain (target.config.typeName .double) (.tail _ (.head _))
  refine (Lacking.composes foreign double).piece lowercase piece clause lacks.1 fun node mem => ?_
  exact {
    names := fun inner within name own => lacks.2 node mem inner within name (List.mem_append_left _ own)
    strings := fun inner within text own => lacks.2 node mem inner within text (List.mem_append_right _ own)
    operands := fun _ _ _ _ => trivial }

end PortableSql
