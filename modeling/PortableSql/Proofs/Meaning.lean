import PortableSql.Proofs.Added
import PortableSql.Proofs.Condition

/-! Fragments that spell conditions.

A fragment is put together from the fragments of tests, parentheses and connectives. `Means` says that
it spells a condition at a level of precedence and what the condition amounts to; its lemmas go along
with the ways in which such fragments are put together.
-/

set_option autoImplicit false

namespace PortableSql

variable {α E : Type}

def Token.fragment (unit : α → Fragment) : Token α → Fragment
  | .opening => .text "("
  | .closing => .text ")"
  | .not => .text "not "
  | .and => .text " and "
  | .or => .text " or "
  | .test t => unit t

def Token.words (text : α → String) : Token α → String
  | .opening => "("
  | .closing => ")"
  | .not => "not "
  | .and => " and "
  | .or => " or "
  | .test t => text t

def Fragment.ofTokens (unit : α → Fragment) : List (Token α) → Fragment
  | [] => .nil
  | token :: tokens => token.fragment unit ++ ofTokens unit tokens

theorem Fragment.ofTokens_append (unit : α → Fragment) (first second : List (Token α)) :
    ofTokens unit (first ++ second) = ofTokens unit first ++ ofTokens unit second := by
  induction first with
  | nil => rfl
  | cons token first ih => simp only [List.cons_append, ofTokens, ih, append_assoc]

theorem Fragment.sql_ofTokens {config : Config} {unit : α → Fragment} {tokens : List (Token α)}
    (whole : (ofTokens unit tokens).failure = none) :
    (ofTokens unit tokens).sql config =
      String.join (tokens.map (Token.words fun t => (unit t).sql config)) := by
  induction tokens with
  | nil => rfl
  | cons token tokens ih =>
    obtain ⟨head, rest⟩ := failure_append_eq_none.mp whole
    rw [ofTokens, sql_append head, ih rest, List.map_cons, String.join_cons]
    cases token <;> simp [Token.fragment, Token.words]

/-- A conjunction whose first operand comes to be known last. -/
theorem Spells.and_left {first : List (Token α)} {left : Condition α}
    (head : Spells .factor first left) {second : List (Token α)} {right : Condition α} :
    Spells .conjunction second right → ∃ condition,
      Spells .conjunction (first ++ .and :: second) condition ∧
      ∀ value, condition.truth value = (left.truth value).and (right.truth value)
  | .factor last => ⟨_, head.factor.and last, fun _ => rfl⟩
  | .and middle last => by
    obtain ⟨condition, spelled, same⟩ := head.and_left middle
    refine ⟨_, by simpa using spelled.and last, fun value => ?_⟩
    simp only [Condition.truth, same, Truth.and_assoc]

theorem Spells.or_left {first : List (Token α)} {left : Condition α}
    (head : Spells .conjunction first left) {second : List (Token α)} {right : Condition α} :
    Spells .disjunction second right → ∃ condition,
      Spells .disjunction (first ++ .or :: second) condition ∧
      ∀ value, condition.truth value = (left.truth value).or (right.truth value)
  | .conjunction last => ⟨_, head.conjunction.or last, fun _ => rfl⟩
  | .or middle last => by
    obtain ⟨condition, spelled, same⟩ := head.or_left middle
    refine ⟨_, by simpa using spelled.or last, fun value => ?_⟩
    simp only [Condition.truth, same, Truth.or_assoc]

/-- Whether a fragment spells a condition at a level, its tests written by `unit`, and the condition
amounts to `truth` in every environment that gives the tests their value. -/
def Means (unit : α → Fragment) (value : E → α → Truth) (level : Level) (fragment : Fragment)
    (truth : E → Truth) : Prop :=
  ∃ tokens condition, fragment = Fragment.ofTokens unit tokens ∧ Spells level tokens condition ∧
    ∀ e, condition.truth (value e) = truth e

namespace Means

variable {unit : α → Fragment} {value : E → α → Truth} {fragment first second : Fragment}
  {truth left right : E → Truth} {level : Level}

theorem test (t : α) : Means unit value .factor (unit t) fun e => value e t :=
  ⟨[.test t], .test t, (Fragment.append_nil _).symm, .test t, fun _ => rfl⟩

theorem parens (meant : Means unit value .disjunction fragment truth) :
    Means unit value .factor (.parens fragment) truth := by
  obtain ⟨tokens, condition, rfl, spelled, same⟩ := meant
  refine ⟨.opening :: tokens ++ [.closing], condition, ?_, spelled.parens, same⟩
  simp only [Fragment.parens, List.cons_append, Fragment.ofTokens, Fragment.ofTokens_append,
    Token.fragment, Fragment.append_nil, Fragment.append_assoc]

theorem not (meant : Means unit value .factor fragment truth) :
    Means unit value .factor (.text "not " ++ fragment) fun e => (truth e).not := by
  obtain ⟨tokens, condition, rfl, spelled, same⟩ := meant
  exact ⟨.not :: tokens, .not condition, rfl, spelled.not, fun e => congrArg Truth.not (same e)⟩

theorem conjunction (meant : Means unit value .factor fragment truth) :
    Means unit value .conjunction fragment truth := by
  obtain ⟨tokens, condition, rfl, spelled, same⟩ := meant
  exact ⟨tokens, condition, rfl, spelled.factor, same⟩

theorem disjunction (meant : Means unit value .conjunction fragment truth) :
    Means unit value .disjunction fragment truth := by
  obtain ⟨tokens, condition, rfl, spelled, same⟩ := meant
  exact ⟨tokens, condition, rfl, spelled.conjunction, same⟩

theorem and (head : Means unit value .factor first left)
    (rest : Means unit value .conjunction second right) :
    Means unit value .conjunction (first ++ .text " and " ++ second)
      fun e => (left e).and (right e) := by
  obtain ⟨tokens, condition, rfl, spelled, same⟩ := head
  obtain ⟨tokens', condition', rfl, spelled', same'⟩ := rest
  obtain ⟨joined, spelling, truth⟩ := spelled.and_left spelled'
  refine ⟨tokens ++ .and :: tokens', joined, ?_, spelling, fun e => ?_⟩
  · simp only [Fragment.ofTokens_append, Fragment.ofTokens, Token.fragment, Fragment.append_assoc]
  · rw [truth, same, same']

theorem or (head : Means unit value .conjunction first left)
    (rest : Means unit value .disjunction second right) :
    Means unit value .disjunction (first ++ .text " or " ++ second)
      fun e => (left e).or (right e) := by
  obtain ⟨tokens, condition, rfl, spelled, same⟩ := head
  obtain ⟨tokens', condition', rfl, spelled', same'⟩ := rest
  obtain ⟨joined, spelling, truth⟩ := spelled.or_left spelled'
  refine ⟨tokens ++ .or :: tokens', joined, ?_, spelling, fun e => ?_⟩
  · simp only [Fragment.ofTokens_append, Fragment.ofTokens, Token.fragment, Fragment.append_assoc]
  · rw [truth, same, same']

theorem congr (meant : Means unit value level fragment left) (same : ∀ e, left e = right e) :
    Means unit value level fragment right := by
  have equal : left = right := funext same
  exact equal ▸ meant

/-- What is spelled is read, in one way. -/
theorem read (meant : Means unit value .disjunction fragment truth) :
    ∃ tokens condition, fragment = Fragment.ofTokens unit tokens ∧ WellPlaced tokens ∧
      Condition.read tokens = some condition ∧ ∀ e, condition.truth (value e) = truth e := by
  obtain ⟨tokens, condition, rfl, spelled, same⟩ := meant
  exact ⟨tokens, condition, rfl, spelled.wellPlaced, Condition.read_eq_some_iff.mpr spelled, same⟩

end Means

end PortableSql
