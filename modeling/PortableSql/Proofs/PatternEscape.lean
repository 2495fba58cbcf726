import PortableSql.Proofs.Added

/-! Patterns with an escape, and what is left of the escape on Spanner.

A pattern is read sign by sign from the left. Writing a pattern anew for the backslash turns each sign
into characters of its own, which are read back as one sign again (`signs_flatMap_rewritten`). So both
patterns have as many tokens, and only a lone escape can come out as another token.
-/

set_option autoImplicit false

namespace PortableSql

namespace Pattern

inductive Sign where
  -- A wildcard or the escape, behind the escape.
  | escaped (c : Char)
  -- The escape, with neither a wildcard nor the escape behind it.
  | lone
  | bare (c : Char)
  deriving DecidableEq, Repr

inductive PatternToken where
  | literal (c : Char)
  | one
  | many
  deriving DecidableEq, Repr

def signs (escape : Char) : List Char → List Sign
  | [] => []
  | [c] => [if c = escape then .lone else .bare c]
  | c :: next :: rest =>
    if c = escape then
      if isWildcard next = true ∨ next = escape then .escaped next :: signs escape rest
      else .lone :: signs escape (next :: rest)
    else .bare c :: signs escape (next :: rest)

namespace Sign

def token (escape : Char) : Sign → PatternToken
  | .escaped c => .literal c
  | .lone => .literal escape
  | .bare c => if c = '%' then .many else if c = '_' then .one else .literal c

def rewritten (escape : Char) : Sign → List Char
  | .escaped c => if isWildcard c then ['\\', c] else [c]
  | .lone => [escape]
  | .bare c => if c = '\\' then ['\\', '\\'] else [c]

-- The sign that is read where a sign was written for the backslash.
def reread (escape : Char) : Sign → Sign
  | .escaped c => if isWildcard c then .escaped c else .bare c
  | .lone => .bare escape
  | .bare c => if c = '\\' then .escaped c else .bare c

end Sign

-- The tokens of a pattern.
def tokens (escape : Char) (pattern : List Char) : List PatternToken :=
  (signs escape pattern).map (Sign.token escape)

/-- Whether a text matches tokens from its beginning to its end. -/
inductive Matches : List PatternToken → List Char → Prop where
  | nil : Matches [] []
  | literal {tokens : List PatternToken} {text : List Char} (c : Char) :
      Matches tokens text → Matches (.literal c :: tokens) (c :: text)
  | one {tokens : List PatternToken} {text : List Char} (c : Char) :
      Matches tokens text → Matches (.one :: tokens) (c :: text)
  | many {tokens : List PatternToken} {text : List Char} (skipped : List Char) :
      Matches tokens text → Matches (.many :: tokens) (skipped ++ text)

theorem signs_cons_of_ne {escape c : Char} (other : c ≠ escape) (rest : List Char) :
    signs escape (c :: rest) = .bare c :: signs escape rest := by
  cases rest with
  | nil => simp only [signs, if_neg other]
  | cons next rest => rw [signs, if_neg other]

theorem signs_escaped {escape c : Char} (special : isWildcard c = true ∨ c = escape)
    (rest : List Char) : signs escape (escape :: c :: rest) = .escaped c :: signs escape rest := by
  rw [signs, if_pos rfl, if_pos special]

theorem escaped_of_mem_signs {escape c : Char} {pattern : List Char} :
    Sign.escaped c ∈ signs escape pattern → isWildcard c = true ∨ c = escape := by
  fun_induction signs escape pattern with
  | case1 => nofun
  | case2 d => split <;> simp
  | case3 next rest special ih =>
    intro mem
    cases mem with
    | head => exact special
    | tail _ mem => exact ih mem
  | case4 next rest plain ih =>
    intro mem
    cases mem with
    | tail _ mem => exact ih mem
  | case5 d next rest other ih =>
    intro mem
    cases mem with
    | tail _ mem => exact ih mem

theorem backslashed_eq_flatMap {escape : Char} (other : escape ≠ '\\') (pattern : List Char) :
    backslashed escape pattern = (signs escape pattern).flatMap (Sign.rewritten escape) := by
  fun_induction signs escape pattern with
  | case1 => rfl
  | case2 c =>
    by_cases backslash : c = '\\'
    · subst backslash
      rw [if_neg other.symm]
      rfl
    · split
      · next same => simp [backslashed, Sign.rewritten, same]
      · simp [backslashed, Sign.rewritten, backslash]
  | case3 next rest special ih =>
    rw [List.flatMap_cons, ← ih, Sign.rewritten, backslashed, if_pos rfl]
    · split
      · rfl
      · next plain => rw [if_pos (special.resolve_left plain), special.resolve_left plain]; rfl
    · exact other
  | case4 next rest plain ih =>
    have notWildcard : ¬isWildcard next = true := fun wildcard => plain (.inl wildcard)
    have notEscape : ¬next = escape := fun same => plain (.inr same)
    rw [List.flatMap_cons, ← ih, Sign.rewritten, backslashed, if_pos rfl, if_neg notWildcard,
      if_neg notEscape]
    · rfl
    · exact other
  | case5 c next rest differs ih =>
    rw [List.flatMap_cons, ← ih, Sign.rewritten]
    by_cases backslash : c = '\\'
    · subst backslash
      rfl
    · rw [if_neg backslash, backslashed, if_neg differs]
      · rfl
      · exact backslash

/-- What is written for the backslash is read as the signs that were meant. -/
theorem signs_flatMap_rewritten {escape : Char} (other : escape ≠ '\\') {list : List Sign}
    (valid : ∀ c, Sign.escaped c ∈ list → isWildcard c = true ∨ c = escape) :
    signs '\\' (list.flatMap (Sign.rewritten escape)) = list.map (Sign.reread escape) := by
  induction list with
  | nil => rfl
  | cons sign list ih =>
    have rest := ih fun c mem => valid c (List.mem_cons_of_mem _ mem)
    rw [List.flatMap_cons, List.map_cons, ← rest]
    cases sign with
    | lone => exact signs_cons_of_ne other _
    | bare c =>
      rw [Sign.rewritten, Sign.reread]
      split
      · next backslash => exact backslash ▸ signs_escaped (.inr rfl) _
      · next plain => exact signs_cons_of_ne plain _
    | escaped c =>
      rw [Sign.rewritten, Sign.reread]
      split
      · next wildcard => exact signs_escaped (.inl wildcard) _
      · next plain =>
        have same : c = escape := (valid c List.mem_cons_self).resolve_left plain
        exact signs_cons_of_ne (same ▸ other) _

/-- A sign that is read back stands for the same, unless it is a lone escape that is a wildcard. -/
theorem token_reread_iff {escape : Char} (sign : Sign)
    (valid : ∀ c, sign = .escaped c → isWildcard c = true ∨ c = escape) :
    (sign.reread escape).token '\\' = sign.token escape ↔
      isWildcard escape = false ∨ sign ≠ .lone := by
  cases sign with
  | lone =>
    by_cases many : escape = '%'
    · simp [Sign.reread, Sign.token, isWildcard, many]
    · by_cases one : escape = '_' <;> simp [Sign.reread, Sign.token, isWildcard, many, one]
  | bare c =>
    by_cases backslash : c = '\\' <;> simp [Sign.reread, Sign.token, backslash]
  | escaped c =>
    rw [Sign.reread]
    split
    · simp [Sign.token]
    · next plain =>
      simp only [isWildcard, Bool.or_eq_true, beq_iff_eq, not_or] at plain
      simp [Sign.token, plain]

theorem tokens_backslashed_iff {escape : Char} (other : escape ≠ '\\') (pattern : List Char) :
    tokens '\\' (backslashed escape pattern) = tokens escape pattern ↔
      isWildcard escape = false ∨ .lone ∉ signs escape pattern := by
  have each (sign : Sign) (mem : sign ∈ signs escape pattern) :
      (sign.reread escape).token '\\' = sign.token escape ↔ isWildcard escape = false ∨ sign ≠ .lone :=
    token_reread_iff sign fun c same => escaped_of_mem_signs (same ▸ mem)
  rw [tokens, tokens, backslashed_eq_flatMap other,
    signs_flatMap_rewritten other fun c => escaped_of_mem_signs, List.map_map, List.map_inj_left]
  refine (forall₂_congr each).trans ?_
  constructor
  · intro all
    by_cases lone : Sign.lone ∈ signs escape pattern
    · exact .inl ((all .lone lone).resolve_right fun differs => differs rfl)
    · exact .inr lone
  · rintro (plain | none) sign mem
    · exact .inl plain
    · exact .inr fun lone => none (lone ▸ mem)

end Pattern

def Pattern.words (config : Config) (caseSensitive negated : Bool) (expr pattern : String) : String :=
  let operator := if negated then " not like " else " like "
  if caseSensitive then expr ++ operator ++ pattern
  else
    config.lowercaseFunction ++ "(" ++ expr ++ ")" ++ operator
      ++ config.lowercaseFunction ++ "(" ++ pattern ++ ")"

def Like.escaped (expr : Expr) (pattern : String) (escape : Char) (caseSensitive negated : Bool) :
    Like where
  expr
  pattern := .literal (.string pattern)
  escape := some (.literal (.string (String.singleton escape)))
  caseSensitive
  negated

namespace Pattern

theorem failure_unescaped (config : Config) (caseSensitive negated : Bool) (expr : Fragment)
    (pattern : String) :
    (unescaped config caseSensitive negated expr (.literal pattern)).failure = expr.failure := by
  cases caseSensitive <;> cases negated <;>
    simp [unescaped, standard, lowered, escapeClause, Fragment.failure_append, Fragment.onlyIf,
      Fragment.ifSome]

theorem sql_unescaped (config : Config) (caseSensitive negated : Bool) {expr : Fragment}
    (whole : expr.failure = none) (pattern : String) :
    (unescaped config caseSensitive negated expr (.literal pattern)).sql config =
      words config caseSensitive negated (expr.sql config) (config.quote pattern) := by
  cases caseSensitive <;> cases negated <;>
    simp [unescaped, standard, lowered, escapeClause, words, Fragment.failure_append,
      Fragment.onlyIf, Fragment.ifSome, Fragment.sql_append, Fragment.sql_parens, whole,
      String.append_assoc]

def withoutEscape (escape : Char) (pattern : String) : String :=
  if escape = '\\' then pattern else String.ofList (backslashed escape pattern.toList)

theorem tokens_withoutEscape_iff (escape : Char) (pattern : String) :
    tokens '\\' (withoutEscape escape pattern).toList = tokens escape pattern.toList ↔
      isWildcard escape = false ∨ .lone ∉ signs escape pattern.toList := by
  rw [withoutEscape]
  split
  · next backslash => simp [backslash, isWildcard]
  · next other =>
    rw [String.toList_ofList]
    exact tokens_backslashed_iff other pattern.toList

end Pattern

theorem Spanner.like_escaped (config : Config) (expr : Expr) (pattern : String) (escape : Char)
    (caseSensitive negated : Bool) (rendered : Fragment) :
    Spanner.like config (.escaped expr pattern escape caseSensitive negated) rendered (.literal pattern) =
      some (Pattern.unescaped config caseSensitive negated rendered
        (.literal (Pattern.withoutEscape escape pattern))) := by
  have single : Pattern.escape? (.literal (.string (String.singleton escape))) = some escape := by
    simp [Pattern.escape?, Expr.string?]
  simp only [Spanner.like, Like.escaped, single, Expr.string?, Pattern.withoutEscape]
  split <;> rfl

namespace Session

/-- On Spanner a match with an escape fails as the matched expression does and is written without an
escape clause, with one literal. Read with the backslash as its escape, the literal has the tokens of the
pattern, unless a lone escape is a wildcard. -/
theorem like_escaped_reads (session : Session) (spanner : session.target.dialect = .spanner)
    (expr : Expr) (pattern : String) (escape : Char) (caseSensitive negated : Bool) :
    let like := Piece.like (.escaped expr pattern escape caseSensitive negated)
    (session.write like).2 = (session.write (.expr expr)).2 ∧
    ∃ written : String,
      ((session.write (.expr expr)).2 = none → session.textOf like =
        Pattern.words session.target.config caseSensitive negated (session.textOf (.expr expr))
          (session.target.config.quote written)) ∧
      (Pattern.tokens '\\' written.toList = Pattern.tokens escape pattern.toList ↔
        Pattern.isWildcard escape = false ∨ .lone ∉ Pattern.signs escape pattern.toList) ∧
      (Pattern.isWildcard escape = false → ∀ text,
        Pattern.Matches (Pattern.tokens '\\' written.toList) text ↔
          Pattern.Matches (Pattern.tokens escape pattern.toList) text) := by
  intro like
  obtain ⟨⟨dialect, config⟩, clauses, marks⟩ := session
  cases spanner
  let rendered := Render.expr ⟨.spanner, config⟩ expr
  let written := Pattern.withoutEscape escape pattern
  have answer : like.fragment ⟨.spanner, config⟩ clauses.head? =
      .offer .like (some (Pattern.unescaped config caseSensitive negated rendered (.literal written)))
        (Pattern.standard caseSensitive negated rendered (.literal pattern)
          (Render.optional ⟨.spanner, config⟩
            (Like.escaped expr pattern escape caseSensitive negated).escape)) :=
    congrArg (Fragment.offer .like · _) (Spanner.like_escaped config expr pattern escape _ _ rendered)
  have same := Pattern.tokens_withoutEscape_iff escape pattern
  refine ⟨?_, written, fun whole => ?_, same, fun plain text => ?_⟩
  · rw [write_failure]
    refine (congrArg Fragment.failure answer).trans ?_
    rw [Fragment.failure_offer]
    exact Pattern.failure_unescaped config caseSensitive negated rendered written
  · rw [textOf_eq, textOf_eq]
    refine (congrArg (Fragment.sql config) answer).trans ?_
    rw [Fragment.sql_offer_some]
    exact Pattern.sql_unescaped config caseSensitive negated whole written
  · rw [same.mpr (.inl plain)]

/-- A wildcard that is escaped stays a character; `a` ends in `50%`. -/
theorem like_escaped_reads_percent :
    ∃ written : String,
      textOf ⟨⟨.spanner, .spanner⟩, [], []⟩
          (.like (.escaped (.column { name := "a" }) "%50!%" '!' true false)) =
        "a like " ++ Config.spanner.quote written ∧
      Pattern.tokens '\\' written.toList = [.many, .literal '5', .literal '0', .literal '%'] := by
  obtain ⟨_, written, text, same, _⟩ := like_escaped_reads ⟨⟨.spanner, .spanner⟩, [], []⟩ rfl
    (.column { name := "a" }) "%50!%" '!' true false
  exact ⟨written, text rfl, (same.mpr (.inl rfl)).trans (by decide)⟩

/-- An expression that Spanner refuses is refused on the left of a match too. -/
theorem like_escaped_refused :
    (write ⟨⟨.spanner, .spanner⟩, [], []⟩ (.like (.escaped
      (.window ⟨"rank", [], .other⟩ [.summarization .rollup [.column { name := "a" }]] [])
      "50!%" '!' true false))).2 = some (.summarization .rollup) :=
  rfl

end Session

end PortableSql
