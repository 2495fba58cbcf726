import Mathlib.Data.Int.Order.Basic
import PortableSql.Proofs.Lexeme
import PortableSql.Proofs.Meaning

/-! Conditions in characters.

`Condition.ofText?` reads a condition over comparisons and tests for null: words and signs first, then
the tests, which bind tightest, then `not`, `and` and `or`. Well-placed tokens are read back from their
text (`Token.ofText?_text`).
-/

set_option autoImplicit false

namespace PortableSql

inductive Test where
  | comparison (left : Term) (op : ComparisonOp) (right : Term)
  | nullness (term : Term) (negated : Bool)
  deriving DecidableEq, Repr

namespace Test

def fragment : Test → Fragment
  | .comparison left op right => RowValue.compare (.text left.text) op (.text right.text)
  | .nullness term negated => .text term.text ++ .text (if negated then " is not null" else " is null")

def text : Test → String
  | .comparison left op right => left.text ++ op.spacedText ++ right.text
  | .nullness term negated => term.text ++ if negated then " is not null" else " is null"

def lexemes : Test → List Lexeme
  | .comparison left .distinctFrom right =>
    [.term left, .keyword .is, .keyword .distinct, .keyword .fromWord, .term right]
  | .comparison left .notDistinctFrom right =>
    [.term left, .keyword .is, .keyword .not, .keyword .distinct, .keyword .fromWord, .term right]
  | .comparison left op right => [.term left, .relation op, .term right]
  | .nullness term false => [.term term, .keyword .is, .keyword .null]
  | .nullness term true => [.term term, .keyword .is, .keyword .not, .keyword .null]

end Test

def Term.value (columns : String → Option Int) : Term → Option Int
  | .column name => columns name.text
  | .number value => some value

def Test.truth (columns : String → Option Int) : Test → Truth
  | .comparison left op right => op.truth (left.value columns) (right.value columns)
  | .nullness term negated => .ofBool ((term.value columns).isNone != negated)

namespace Token

/-- The tokens of lexemes: the tests are put together, and nothing else is. -/
def ofLexemes? : List Lexeme → Option (List (Token Test))
  | [] => some []
  | .opening :: rest => (ofLexemes? rest).map (.opening :: ·)
  | .closing :: rest => (ofLexemes? rest).map (.closing :: ·)
  | .keyword .not :: rest => (ofLexemes? rest).map (.not :: ·)
  | .keyword .and :: rest => (ofLexemes? rest).map (.and :: ·)
  | .keyword .or :: rest => (ofLexemes? rest).map (.or :: ·)
  | .term left :: .relation op :: .term right :: rest =>
    (ofLexemes? rest).map (.test (.comparison left op right) :: ·)
  | .term left :: .keyword .is :: .keyword .distinct :: .keyword .fromWord :: .term right :: rest =>
    (ofLexemes? rest).map (.test (.comparison left .distinctFrom right) :: ·)
  | .term left :: .keyword .is :: .keyword .not :: .keyword .distinct :: .keyword .fromWord
      :: .term right :: rest =>
    (ofLexemes? rest).map (.test (.comparison left .notDistinctFrom right) :: ·)
  | .term term :: .keyword .is :: .keyword .null :: rest =>
    (ofLexemes? rest).map (.test (.nullness term false) :: ·)
  | .term term :: .keyword .is :: .keyword .not :: .keyword .null :: rest =>
    (ofLexemes? rest).map (.test (.nullness term true) :: ·)
  | _ => none

def ofText? (text : List Char) : Option (List (Token Test)) :=
  (Lexeme.all? text).bind ofLexemes?

def text (token : Token Test) : List Char :=
  (token.words Test.text).toList

def lexemes : Token Test → List Lexeme
  | .opening => [.opening]
  | .closing => [.closing]
  | .not => [.keyword .not]
  | .and => [.keyword .and]
  | .or => [.keyword .or]
  | .test t => t.lexemes

theorem ofLexemes?_lexemes (tokens : List (Token Test)) :
    ofLexemes? (tokens.flatMap lexemes) = some tokens := by
  induction tokens with
  | nil => rfl
  | cons token tokens ih =>
    rw [List.flatMap_cons]
    cases token with
    | opening | closing | not | and | or => simp [lexemes, ofLexemes?, ih]
    | test t =>
      cases t with
      | comparison left op right => cases op <;> simp [lexemes, Test.lexemes, ofLexemes?, ih]
      | nullness term negated => cases negated <;> simp [lexemes, Test.lexemes, ofLexemes?, ih]

end Token

-- Whether a text does not go on with a word or a sign.
def Ended (rest : List Char) : Prop :=
  ∀ c ∈ rest.head?, (CharKind.of c).joins = false

theorem Ended.kind {rest : List Char} (ended : Ended rest) {kind : CharKind}
    (joins : kind.joins = true) : ∀ c ∈ rest.head?, CharKind.of c ≠ kind := by
  rintro c mem rfl
  rw [ended c mem] at joins
  contradiction

theorem ended_nil : Ended [] := nofun

theorem ended_cons {c : Char} (alone : (CharKind.of c).joins = false) (rest : List Char) :
    Ended (c :: rest) := by
  rintro d ⟨⟩
  exact alone

namespace Lexeme

theorem all?_keyword (keyword : Keyword) {rest : List Char} (ended : Ended rest) :
    all? (keyword.text.toList ++ rest) = (all? rest).map (.keyword keyword :: ·) :=
  all?_word (by cases keyword <;> decide) (ofWord?_keyword keyword) (ended.kind rfl)

theorem all?_keyword_blank (keyword : Keyword) (rest : List Char) :
    all? (keyword.text.toList ++ ' ' :: rest) = (all? rest).map (.keyword keyword :: ·) := by
  rw [all?_keyword keyword (ended_cons rfl rest), all?_blank]

theorem all?_term (term : Term) {rest : List Char} (ended : ∀ c ∈ rest.head?, CharKind.of c ≠ .word) :
    all? (term.text.toList ++ rest) = (all? rest).map (.term term :: ·) :=
  all?_word (isWord_term term) (ofWord?_term term) ended

theorem kind_of_term (term : Term) (rest : List Char) :
    ∀ c ∈ (term.text.toList ++ rest).head?, CharKind.of c = .word := by
  have word := isWord_term term
  intro c head
  cases chars : term.text.toList with
  | nil =>
    have read := ofWord?_term term
    have nothing : ofWord? [] = none := by decide +kernel
    rw [chars, nothing] at read
    contradiction
  | cons first others =>
    rw [chars] at word head
    cases head
    exact CharKind.of_isWord (List.all_eq_true.mp word c List.mem_cons_self)

theorem all?_comparison (left right : Term) {op : ComparisonOp} (plain : op.isDistinctness = false)
    {rest : List Char} (ended : Ended rest) :
    all? (left.text.toList ++ (op.text.toList ++ (right.text.toList ++ rest))) =
      (all? rest).map ([.term left, .relation op, .term right] ++ ·) := by
  have sign : ∀ c ∈ (op.text.toList ++ (right.text.toList ++ rest)).head?, CharKind.of c ≠ .word := by
    cases op <;> first | contradiction | (rintro c ⟨⟩; decide)
  have operand : ∀ c ∈ (right.text.toList ++ rest).head?, CharKind.of c ≠ .relation := by
    intro c head
    rw [kind_of_term right rest c head]
    nofun
  rw [all?_term left sign, all?_sign plain operand, all?_term right (ended.kind rfl)]
  simp [Function.comp_def]

theorem all?_test (test : Test) {rest : List Char} (ended : Ended rest) :
    all? (test.text.toList ++ rest) = (all? rest).map (test.lexemes ++ ·) := by
  -- an operand in front of words
  have operand (term : Term) (chars : List Char) :
      all? (term.text.toList ++ ' ' :: chars) = (all? chars).map (.term term :: ·) := by
    rw [all?_term term ((ended_cons rfl chars).kind rfl), all?_blank]
  cases test with
  | comparison left op right =>
    simp only [Test.text, String.toList_append, List.append_assoc]
    cases op with
    | eq | ne | lt | lte | gt | gte => exact all?_comparison left right rfl ended
    | distinctFrom =>
      have words : ComparisonOp.distinctFrom.spacedText.toList ++ (right.text.toList ++ rest) =
          ' ' :: (Keyword.is.text.toList ++ ' ' :: (Keyword.distinct.text.toList
            ++ ' ' :: (Keyword.fromWord.text.toList ++ ' ' :: (right.text.toList ++ rest)))) := rfl
      rw [words, operand, all?_keyword_blank, all?_keyword_blank, all?_keyword_blank,
        all?_term right (ended.kind rfl)]
      simp [Function.comp_def, Test.lexemes]
    | notDistinctFrom =>
      have words : ComparisonOp.notDistinctFrom.spacedText.toList ++ (right.text.toList ++ rest) =
          ' ' :: (Keyword.is.text.toList ++ ' ' :: (Keyword.not.text.toList
            ++ ' ' :: (Keyword.distinct.text.toList ++ ' ' :: (Keyword.fromWord.text.toList
              ++ ' ' :: (right.text.toList ++ rest))))) := rfl
      rw [words, operand, all?_keyword_blank, all?_keyword_blank, all?_keyword_blank,
        all?_keyword_blank, all?_term right (ended.kind rfl)]
      simp [Function.comp_def, Test.lexemes]
  | nullness term negated =>
    simp only [Test.text, String.toList_append, List.append_assoc]
    cases negated with
    | false =>
      have words : (if false then " is not null" else " is null").toList ++ rest =
          ' ' :: (Keyword.is.text.toList ++ ' ' :: (Keyword.null.text.toList ++ rest)) := rfl
      rw [words, operand, all?_keyword_blank, all?_keyword _ ended]
      simp [Function.comp_def, Test.lexemes]
    | true =>
      have words : (if true then " is not null" else " is null").toList ++ rest =
          ' ' :: (Keyword.is.text.toList ++ ' ' :: (Keyword.not.text.toList
            ++ ' ' :: (Keyword.null.text.toList ++ rest))) := rfl
      rw [words, operand, all?_keyword_blank, all?_keyword_blank, all?_keyword _ ended]
      simp [Function.comp_def, Test.lexemes]

-- The lexemes of a token are found in its text, unless what follows goes on with it.
theorem all?_token (token : Token Test) {rest : List Char} (ended : token.ends = true → Ended rest) :
    all? (token.text ++ rest) = (all? rest).map (token.lexemes ++ ·) := by
  cases token with
  | opening => exact all?_opening rest
  | closing => exact all?_closing rest
  | not => exact all?_keyword_blank .not rest
  | and =>
    have words : Token.text .and ++ rest = ' ' :: (Keyword.and.text.toList ++ ' ' :: rest) := rfl
    rw [words, all?_blank, all?_keyword_blank]
    rfl
  | or =>
    have words : Token.text .or ++ rest = ' ' :: (Keyword.or.text.toList ++ ' ' :: rest) := rfl
    rw [words, all?_blank, all?_keyword_blank]
    rfl
  | test t => exact all?_test t (ended rfl)

end Lexeme

namespace Token

theorem ended_of_begins {token : Token Test} (follows : token.begins = false) (rest : List Char) :
    Ended (token.text ++ rest) := by
  cases token with
  | closing => exact ended_cons rfl rest
  | and | or => exact ended_cons rfl _
  | opening | not | test => contradiction

-- Tokens that meet are told apart in their text.
theorem lexemes_text {tokens : List (Token Test)}
    (meets : (tokens ++ [Token.closing]).IsChain Token.Meets) :
    Lexeme.all? (tokens.flatMap text) = some (tokens.flatMap lexemes) := by
  induction tokens with
  | nil => decide +kernel
  | cons token tokens ih =>
    rw [List.cons_append, List.isChain_cons] at meets
    have ended : token.ends = true → Ended (tokens.flatMap text) := by
      intro ends
      cases tokens with
      | nil => exact ended_nil
      | cons next tokens =>
        have follows : next.begins = false := by
          have meet := meets.1 next rfl
          rw [Meets, ends] at meet
          simpa using meet.symm
        exact ended_of_begins follows _
    rw [List.flatMap_cons, Lexeme.all?_token token ended, ih meets.2]
    rfl

theorem ofText?_text {tokens : List (Token Test)} (placed : WellPlaced tokens) :
    ofText? (tokens.flatMap text) = some tokens := by
  rw [ofText?, lexemes_text (List.isChain_cons.mp placed).2]
  exact ofLexemes?_lexemes tokens

end Token

/-- The condition that a text spells. -/
def Condition.ofText? (text : String) : Option (Condition Test) :=
  (Token.ofText? text.toList).bind read

theorem Test.fragment_failure (test : Test) : test.fragment.failure = none := by
  cases test <;> simp [fragment, RowValue.compare, Fragment.failure_append]

theorem Test.fragment_sql (config : Config) (test : Test) : test.fragment.sql config = test.text := by
  cases test <;> simp [fragment, text, RowValue.compare, Fragment.failure_append, Fragment.sql_append]

theorem Fragment.ofTokens_failure (tokens : List (Token Test)) :
    (ofTokens Test.fragment tokens).failure = none := by
  induction tokens with
  | nil => rfl
  | cons token tokens ih =>
    refine failure_append_eq_none.mpr ⟨?_, ih⟩
    cases token <;> simp [Token.fragment, Test.fragment_failure]

/-- What a fragment spells in tests of operands is read from its text. -/
theorem Means.ofText? {E : Type} {value : E → Test → Truth} {fragment : Fragment} {truth : E → Truth}
    (meant : Means Test.fragment value .disjunction fragment truth) :
    fragment.failure = none ∧ ∃ condition, (∀ config,
      Condition.ofText? (fragment.sql config) = some condition) ∧
      ∀ e, condition.truth (value e) = truth e := by
  obtain ⟨tokens, condition, rfl, placed, read, same⟩ := meant.read
  refine ⟨Fragment.ofTokens_failure tokens, condition, fun config => ?_, same⟩
  have text : (Fragment.ofTokens Test.fragment tokens).sql config =
      String.join (tokens.map (Token.words Test.text)) := by
    simp only [Fragment.sql_ofTokens (Fragment.ofTokens_failure tokens), Test.fragment_sql]
  have chars : (String.join (tokens.map (Token.words Test.text))).toList =
      tokens.flatMap Token.text := by
    rw [String.toList_join, List.flatMap_map]
    rfl
  rw [Condition.ofText?, text, chars, Token.ofText?_text placed]
  exact read

end PortableSql
