import PortableSql.Config

/-! Reading a string literal back.

The reader takes one literal from the start of a text, in one of the two styles, and answers with its content
and with what is left. It accepts exactly what is written for a content (`Config.literal?_quote`): a quoted
text is taken to its end and no further, whatever stands in it and whatever comes behind.
-/

set_option autoImplicit false

namespace PortableSql

namespace LiteralEscape

/-- What a character stands for behind a backslash, if it stands for anything. -/
def unescape? : Char → Option Char
  | '\\' => some '\\'
  | '\'' => some '\''
  | 'n' => some '\n'
  | _ => none

/-- The content of a literal, from behind its opening quote, and what is left behind the closing one. -/
def content? : LiteralEscape → List Char → Option (List Char × List Char)
  | _, [] => none
  -- Two quotes stand for one.
  | .standard, '\'' :: '\'' :: rest => (content? .standard rest).map (Prod.map ('\'' :: ·) id)
  | .backslash, '\\' :: c :: rest =>
    (unescape? c).bind fun c => (content? .backslash rest).map (Prod.map (c :: ·) id)
  | style, c :: rest =>
    if c = '\'' then some ([], rest)
    else if style = .backslash ∧ (c = '\\' ∨ c = '\n') then none
    else (content? style rest).map (Prod.map (c :: ·) id)

/-- The first literal of a text, and what is left of the text. -/
def literal? (style : LiteralEscape) : List Char → Option (String × List Char)
  | '\'' :: rest => (style.content? rest).map (Prod.map String.ofList id)
  | _ => none

variable {style : LiteralEscape}

/-- What neither ends a literal nor needs a backslash is written as it is. -/
theorem escape_other {c : Char} (quote : c ≠ '\'') (special : ¬ (style = .backslash ∧ (c = '\\' ∨ c = '\n'))) :
    style.escape c = [c] := by
  cases style <;> grind [escape]

theorem escape_of_unescape? {c d : Char} (stands : unescape? c = some d) :
    escape .backslash d = ['\\', c] := by
  unfold unescape? at stands
  split at stands <;> cases stands <;> rfl

theorem content?_escape (c : Char) (text : List Char) :
    style.content? (style.escape c ++ text) = (style.content? text).map (Prod.map (c :: ·) id) := by
  by_cases quote : c = '\''
  · subst quote
    cases style <;> rfl
  by_cases special : style = .backslash ∧ (c = '\\' ∨ c = '\n')
  · obtain ⟨rfl, rfl | rfl⟩ := special <;> rfl
  · rw [escape_other quote special, List.singleton_append, content?, if_neg quote, if_neg special]
    · exact fun _ _ same => absurd same quote
    · exact fun _ _ same escape => absurd ⟨same, .inl escape⟩ special

theorem content?_closing {rest : List Char} (apart : style = .standard → rest.head? ≠ some '\'') :
    style.content? ('\'' :: rest) = some ([], rest) := by
  rw [content?, if_pos rfl]
  · exact fun _ same _ next => apart same (next ▸ rfl)
  · exact fun _ _ _ => by simp

/-- A content is read to its end, and what comes behind is left. -/
theorem content?_content (content : List Char) {rest : List Char}
    (apart : style = .standard → rest.head? ≠ some '\'') :
    style.content? (content.flatMap style.escape ++ '\'' :: rest) = some (content, rest) := by
  induction content with
  | nil => exact content?_closing apart
  | cons c content ih =>
    rw [List.flatMap_cons, List.append_assoc, content?_escape, ih]
    rfl

theorem prepend_eq_some {read : Option (List Char × List Char)} {c : Char} {content rest : List Char} :
    read.map (Prod.map (c :: ·) id) = some (content, rest) ↔
      ∃ inner, read = some (inner, rest) ∧ c :: inner = content := by
  simp [Option.map_eq_some_iff]

/-- What is read as a content was written for it. -/
theorem content?_eq_some {text content rest : List Char} (read : style.content? text = some (content, rest)) :
    text = content.flatMap style.escape ++ '\'' :: rest ∧ (style = .standard → rest.head? ≠ some '\'') := by
  fun_induction content? style text generalizing content rest with
  | case1 => contradiction
  | case2 text ih =>
    obtain ⟨inner, inside, rfl⟩ := prepend_eq_some.mp read
    obtain ⟨rfl, apart⟩ := ih inside
    exact ⟨rfl, apart⟩
  | case3 c text ih =>
    obtain ⟨d, stands, read⟩ := Option.bind_eq_some_iff.mp read
    obtain ⟨inner, inside, rfl⟩ := prepend_eq_some.mp read
    obtain ⟨rfl, apart⟩ := ih inside
    rw [List.flatMap_cons, escape_of_unescape? stands]
    exact ⟨rfl, apart⟩
  | case4 style text single =>
    cases read
    refine ⟨rfl, fun standard head => ?_⟩
    obtain ⟨next, same⟩ := List.head?_eq_some_iff.mp head
    exact single next standard rfl same
  | case5 => contradiction
  | case6 style c text _ _ quote special ih =>
    obtain ⟨inner, inside, rfl⟩ := prepend_eq_some.mp read
    obtain ⟨rfl, apart⟩ := ih inside
    rw [List.flatMap_cons, escape_other quote special]
    exact ⟨rfl, apart⟩

theorem toList_quote_append (content : String) (rest : List Char) : (style.quote content).toList ++ rest =
    '\'' :: (content.toList.flatMap style.escape ++ '\'' :: rest) := by
  simp [quote]

theorem literal?_eq_some_iff {text : List Char} {content : String} {rest : List Char} :
    style.literal? text = some (content, rest) ↔
      text = (style.quote content).toList ++ rest ∧ (style = .standard → rest.head? ≠ some '\'') := by
  rw [toList_quote_append]
  constructor
  · intro read
    unfold literal? at read
    split at read
    · obtain ⟨⟨inner, left⟩, inside, same⟩ := Option.map_eq_some_iff.mp read
      cases same
      obtain ⟨rfl, apart⟩ := content?_eq_some inside
      exact ⟨by rw [String.toList_ofList]; rfl, apart⟩
    · contradiction
  · rintro ⟨rfl, apart⟩
    rw [literal?, content?_content content.toList apart, Option.map_some, Prod.map_apply, String.ofList_toList]
    rfl

end LiteralEscape

/-- Reading a literal undoes quoting: it takes a quoted text whole and leaves what comes behind, which in the
style without backslashes must not be another quote. So what is quoted differs where the contents differ. -/
theorem Config.literal?_quote (config : Config) :
    (∀ text content rest, config.literalEscape.literal? text = some (content, rest) ↔
      text = (config.quote content).toList ++ rest ∧
        (config.literalEscape = .standard → rest.head? ≠ some '\'')) ∧
    Function.Injective config.quote := by
  refine ⟨fun _ _ _ => LiteralEscape.literal?_eq_some_iff, fun first second same => ?_⟩
  have alone (content : String) :
      config.literalEscape.literal? ((config.quote content).toList ++ []) = some (content, []) :=
    LiteralEscape.literal?_eq_some_iff.mpr ⟨rfl, fun _ => nofun⟩
  have read := alone first
  rw [same, alone second] at read
  cases read
  rfl

example : LiteralEscape.backslash.literal? "'it\\'s \\\\' or".toList = some ("it's \\", " or".toList) := by
  decide

end PortableSql
