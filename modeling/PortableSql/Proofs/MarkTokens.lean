import PortableSql.Proofs.LiteralContents
import PortableSql.Proofs.Outline
import PortableSql.Proofs.PhraseNode

/-! The tokens of a fragment are those of its marks.

In what Spanner writes no word goes on from one mark into the next, so that the tokens of its text are those of
the marks, one after the other (`Statement.tokens_sql`). The standard rendering sets some names apart from
nothing, but its parentheses are still those of its marks (`Statement.depth?_sql`).
-/

set_option autoImplicit false

namespace PortableSql

def Mark.tokens (config : Config) (mark : Mark) : List ScanToken :=
  config.literalEscape.tokens (mark.sql config).toList

def Fragment.tokens (config : Config) (fragment : Fragment) : List ScanToken :=
  fragment.marks.flatMap (Mark.tokens config)

namespace LiteralEscape

variable {style : LiteralEscape}

theorem tokens_unquoted {text : List Char} (unquoted : '\'' ∉ text) : style.tokens text = ScanToken.ofText text := by
  have whole : style.tokens (text ++ []) = _ := style.tokens_append unquoted fun _ _ _ head => nomatch head
  rw [List.append_nil] at whole
  exact whole.trans (List.append_nil _)

/-- A literal behind words, without characters that are escaped in it. -/
theorem tokens_quoted (word : String) {opening content : String} {rest : List Char} (opens : opening = word ++ "'")
    (unquoted : '\'' ∉ word.toList) (ends : word.toList.getLast?.all (!ScanToken.isLetter ·) = true)
    (ordinary : content.toList.all isOrdinary = true) (apart : rest.head? ≠ some '\'') :
    style.tokens ((opening ++ content ++ "'").toList ++ rest) =
      ScanToken.ofText word.toList ++ .literal content.toList :: style.tokens rest := by
  have shape : opening ++ content ++ "'" = word ++ style.quote content := by
    rw [opens, style.quote_plain ordinary, String.append_assoc, String.append_assoc, String.append_assoc]
  rw [shape, String.toList_append, List.append_assoc, style.tokens_append unquoted, style.tokens_quote content apart]
  intro c _ last _ letter
  rw [last, Option.all_some, letter] at ends
  contradiction

/-- The tokens of a literal that is cast to a type. -/
theorem tokens_cast {content type : String} (ordinary : content.toList.all isOrdinary = true)
    (unquoted : '\'' ∉ type.toList) (rest : List Char) :
    style.tokens (("cast('" ++ content ++ "' as " ++ type ++ ")").toList ++ rest) =
      [.ofWord "cast", .sign '(', .literal content.toList, .ofWord "as"] ++ ScanToken.ofText type.toList ++ [.sign ')']
        ++ style.tokens rest := by
  have shape : ("cast('" ++ content ++ "' as " ++ type ++ ")").toList ++ rest =
      ("cast('" ++ content ++ "'").toList ++ (" as ".toList ++ (type.toList ++ (")".toList ++ rest))) := by
    have middle : "' as " = "'" ++ " as " := by decide
    simp only [middle, String.toList_append, List.append_assoc]
  have apart (c d : Char) (last : " as ".toList.getLast? = some c) (letter : ScanToken.isLetter c = true) :
      ScanToken.isLetter d = false := by
    cases last
    exact absurd letter (by decide)
  have blank : (" as ".toList ++ (type.toList ++ (")".toList ++ rest))).head? ≠ some '\'' := by
    intro head
    cases head
  have closed (c d : Char) (head : (")".toList ++ rest).head? = some d) : ScanToken.isLetter d = false := by
    cases head
    rfl
  have closing (c d : Char) (last : ")".toList.getLast? = some c) (letter : ScanToken.isLetter c = true) :
      ScanToken.isLetter d = false := by
    cases last
    exact absurd letter (by decide)
  rw [shape, tokens_quoted "cast(" (by decide) (by decide) (by decide) ordinary blank,
    style.tokens_append (by decide) fun c d last _ => apart c d last,
    style.tokens_append unquoted fun c d _ head _ => closed c d head,
    style.tokens_append (by decide) fun c d last _ => closing c d last]
  have opening : ScanToken.ofText "cast(".toList = [.ofWord "cast", .sign '('] := by decide
  have middle : ScanToken.ofText " as ".toList = [.ofWord "as"] := by decide
  have closing : ScanToken.ofText ")".toList = [.sign ')'] := by decide
  rw [opening, middle, closing]
  simp only [List.cons_append, List.nil_append, List.append_assoc]

theorem tokens_quote_alone (content : String) :
    style.tokens (style.quote content).toList = [.literal content.toList] := by
  have whole : style.tokens ((style.quote content).toList ++ []) = _ :=
    style.tokens_quote content (Option.some_ne_none _).symm
  rwa [List.append_nil] at whole

end LiteralEscape

namespace Fragment

variable {config : Config}

theorem tokens_mark (mark : Mark) : (Fragment.mark mark).tokens config = mark.tokens config :=
  List.append_nil _

theorem tokens_text (words : String) : (text words).tokens config = config.literalEscape.tokens words.toList :=
  tokens_mark (.text words)

theorem tokens_unquoted {words : String} (unquoted : '\'' ∉ words.toList) :
    (text words).tokens config = ScanToken.ofText words.toList := by
  rw [tokens_text, LiteralEscape.tokens_unquoted unquoted]

theorem tokens_literal (content : String) : (literal content).tokens config = [.literal content.toList] :=
  (tokens_mark _).trans (LiteralEscape.tokens_quote_alone content)

theorem tokens_placeholder (parameter : Parameter) :
    (placeholder parameter).tokens config = ScanToken.ofText "?".toList := by
  have unquoted : '\'' ∉ "?".toList := by decide
  exact (tokens_mark _).trans (LiteralEscape.tokens_unquoted unquoted)

/-- A mark that is no part of the text has no tokens. -/
theorem tokens_silent {mark : Mark} (nothing : mark.sql config = "") : (Fragment.mark mark).tokens config = [] := by
  rw [tokens_mark, Mark.tokens, nothing]
  rfl

theorem tokens_append {first second : Fragment} (whole : first.failure = none) :
    (first ++ second).tokens config = first.tokens config ++ second.tokens config := by
  rw [tokens, marks_append, whole]
  exact List.flatMap_append

theorem tokens_inClause (clause : Clause) (fragment : Fragment) :
    (inClause clause fragment).tokens config = fragment.tokens config := by
  rw [tokens, inClause, List.flatMap_map]
  refine List.flatMap_congr fun mark _ => ?_
  cases mark with
  | offer construct within outcome => cases within <;> rfl
  | text | literal | placeholder | table | lock => rfl

end Fragment

/-- What may follow a word or a literal that ends. -/
def Apart (rest : List Char) : Prop :=
  ∀ c, rest.head? = some c → ScanToken.isLetter c = false ∧ c ≠ '\''

theorem Apart.nil : Apart [] := by
  intro _ head
  contradiction

/-- The tokens of a value. -/
def Value.tokens (config : Config) : Value → List ScanToken
  | .null => [.ofWord "null"]
  | .bool value => [.ofWord (if value then "true" else "false")]
  | .int value => ScanToken.ofText (toString value.toInt).toList
  | .float x =>
    if Decimal.isFinite x then ScanToken.ofText (Decimal.sqlLayout.text x)
    else
      let name := if x.isNaN then "nan" else if Decimal.isNegative x then "-inf" else "inf"
      [.ofWord "cast", .sign '(', .literal name.toList, .ofWord "as"]
        ++ ScanToken.ofText (config.typeName .double).toList ++ [.sign ')']
  | .string value => [.literal value.toList]
  | .date value => [.ofWord "date", .literal value.text]
  | .timestamp value => [.ofWord "timestamp", .literal (value.text ' ')]

theorem Value.tokens_append {config : Config} (double : '\'' ∉ (config.typeName .double).toList) (value : Value)
    {rest : List Char} (apart : Apart rest) :
    config.literalEscape.tokens (((value.fragment config).sql config).toList ++ rest) =
      value.tokens config ++ config.literalEscape.tokens rest := by
  have unquoted {text : List Char} (plain : '\'' ∉ text) :
      config.literalEscape.tokens (text ++ rest) = ScanToken.ofText text ++ config.literalEscape.tokens rest :=
    config.literalEscape.tokens_append plain fun _ d _ head _ => (apart d head).1
  have unquote : rest.head? ≠ some '\'' := fun head => (apart _ head).2 rfl
  cases value with
  | null =>
    rw [Value.fragment, Fragment.sql_text]
    exact unquoted (by decide)
  | bool value =>
    rw [Value.fragment, Fragment.sql_text]
    cases value <;> exact unquoted (by decide)
  | int value =>
    rw [Value.fragment, Fragment.sql_text]
    exact unquoted ((Numeral.toString _).not_mem rfl)
  | float value =>
    rw [Value.fragment, Fragment.sql_text, Value.floatText, Value.tokens]
    split
    · rw [String.toList_ofList]
      exact unquoted ((Numeral.float _ value).not_mem rfl)
    · refine config.literalEscape.tokens_cast ?_ double rest
      split_ifs <;> decide
  | string text =>
    rw [Value.fragment, Fragment.sql_literal]
    exact config.literalEscape.tokens_quote text unquote
  | date value =>
    have content : (String.ofList value.text).toList = value.text := String.toList_ofList
    rw [Value.fragment, Fragment.sql_text, LiteralEscape.tokens_quoted "date " (by decide) (by decide)
      (by decide) (Numeral.date value).ordinary unquote, content]
    rfl
  | timestamp value =>
    have content : (String.ofList (value.text ' ')).toList = value.text ' ' := String.toList_ofList
    rw [Value.fragment, Fragment.sql_text, LiteralEscape.tokens_quoted "timestamp " (by decide) (by decide)
      (by decide) (Numeral.timestamp rfl value).ordinary unquote, content]
    rfl

/-- A value is one mark. -/
theorem Value.tokens_fragment {config : Config} (double : '\'' ∉ (config.typeName .double).toList) (value : Value) :
    (value.fragment config).tokens config = value.tokens config := by
  have one : (value.fragment config).tokens config =
      config.literalEscape.tokens ((value.fragment config).sql config).toList := by
    cases value with
    | string text =>
      rw [Value.fragment, Fragment.sql_literal]
      exact Fragment.tokens_mark (.literal text)
    | null | bool | int | float | date | timestamp =>
      rw [Value.fragment, Fragment.sql_text]
      exact Fragment.tokens_text _
  have whole : config.literalEscape.tokens (((value.fragment config).sql config).toList ++ []) = _ :=
    value.tokens_append double .nil
  rw [List.append_nil] at whole
  exact one.trans (whole.trans (List.append_nil _))

theorem LiteralEscape.tokens_bucket {style : LiteralEscape} {rest : List Char} (apart : rest.head? ≠ some '\'') :
    style.tokens ("'0' || '0'".toList ++ rest) =
      [.literal ['0'], .sign '|', .sign '|', .literal ['0']] ++ style.tokens rest := by
  have zero : style.quote "0" = "'0'" := by
    rw [style.quote_plain (by decide)]
    decide
  have shape : "'0' || '0'".toList ++ rest =
      (style.quote "0").toList ++ (" || ".toList ++ ((style.quote "0").toList ++ rest)) := by
    have middle : "'0' || '0'" = "'0'" ++ (" || " ++ "'0'") := by decide
    rw [zero, middle]
    simp only [String.toList_append, List.append_assoc]
  have first : (" || ".toList ++ ((style.quote "0").toList ++ rest)).head? ≠ some '\'' := by
    intro head
    cases head
  have between (c d : Char) (last : " || ".toList.getLast? = some c) (letter : ScanToken.isLetter c = true) :
      ScanToken.isLetter d = false := by
    cases last
    exact absurd letter (by decide)
  rw [shape, style.tokens_quote "0" first, style.tokens_append (by decide) fun c d last _ => between c d last,
    style.tokens_quote "0" apart]
  rfl

theorem LiteralEscape.tokens_bucket_alone {style : LiteralEscape} :
    style.tokens "'0' || '0'".toList = [.literal ['0'], .sign '|', .sign '|', .literal ['0']] := by
  have whole : style.tokens ("'0' || '0'".toList ++ []) = _ := tokens_bucket (Option.some_ne_none _).symm
  rw [List.append_nil] at whole
  exact whole.trans (List.append_nil _)

/-- What may follow a joint. -/
def Joint.Precedes (joint : Joint) (rest : List Char) : Prop :=
  joint = .tight → Apart rest

theorem Joint.Precedes.of_ne {joint : Joint} {rest : List Char} (other : joint ≠ .tight) : joint.Precedes rest :=
  fun tight => absurd tight other

/-- What Spanner writes has the tokens of its marks, whatever may follow it, and may follow what it stands
behind. -/
theorem Spanner.Phrase.tokens_append {config : Config} {before after : Joint} {fragment : Fragment}
    {mentions : List Mark} (phrase : Phrase config (fun name => '\'' ∉ name.toList) before fragment mentions after)
    (whole : fragment.failure = none) {rest : List Char} (follows : after.Precedes rest) :
    before.Precedes ((fragment.sql config).toList ++ rest) ∧
      config.literalEscape.tokens ((fragment.sql config).toList ++ rest) =
        fragment.tokens config ++ config.literalEscape.tokens rest := by
  induction phrase generalizing rest with
  | nil joint | lock joint | offer joint => exact ⟨follows, rfl⟩
  | @words before after words spells =>
    rw [Fragment.sql_text, Fragment.tokens_unquoted spells.unquoted]
    constructor
    · rintro rfl c head
      rw [List.head?_append_of_ne_nil _ spells.inhabited] at head
      have begins := spells.begins
      simpa [Joint.begins, head] using begins
    · refine config.literalEscape.tokens_append spells.unquoted fun c d last head letter => ?_
      have ends := spells.ends
      cases after with
      | tight => exact (follows rfl d head).1
      | loose | distinct => simp [Joint.ends, last, letter] at ends
  | name admitted =>
    rw [Fragment.sql_text, Fragment.tokens_unquoted admitted]
    exact ⟨.of_ne (by decide), config.literalEscape.tokens_append admitted fun _ d _ head _ => (follows rfl d head).1⟩
  | @names names admitted =>
    have unquoted : '\'' ∉ (String.intercalate "," names).toList := not_mem_intercalate (by decide) admitted
    rw [Fragment.names, Fragment.sql_text, Fragment.tokens_unquoted unquoted]
    exact ⟨.of_ne (by decide), config.literalEscape.tokens_append unquoted fun _ d _ head _ => (follows rfl d head).1⟩
  | value value double =>
    rw [Value.tokens_fragment double]
    exact ⟨.of_ne (by decide), value.tokens_append double (follows rfl)⟩
  | literal content =>
    rw [Fragment.sql_literal, Fragment.tokens_literal]
    refine ⟨.of_ne (by decide), ?_⟩
    show config.literalEscape.tokens ((config.literalEscape.quote content).toList ++ rest) = _
    rw [config.literalEscape.tokens_quote content fun head => (follows rfl _ head).2 rfl]
    rfl
  | bucket =>
    rw [Fragment.sql_text, Fragment.tokens_text, LiteralEscape.tokens_bucket_alone,
      LiteralEscape.tokens_bucket fun head => (follows rfl _ head).2 rfl]
    exact ⟨.of_ne (by decide), rfl⟩
  | placeholder parameter =>
    have unquoted : '\'' ∉ "?".toList := by decide
    rw [Fragment.sql_placeholder, Fragment.tokens_placeholder]
    exact ⟨.of_ne (by decide), config.literalEscape.tokens_append unquoted fun _ d _ head _ => (follows rfl d head).1⟩
  | @table name admitted =>
    have text : (Fragment.table name).sql config = name := by
      simp [Fragment.sql, Fragment.table, Mark.sqlText, Mark.sql]
    have own : (Fragment.table name).tokens config = ScanToken.ofText name.toList := by
      show (Fragment.text name ++ .mark (.table name)).tokens config = _
      rw [Fragment.tokens_append (Fragment.failure_text name), Fragment.tokens_unquoted admitted]
      exact List.append_nil _
    rw [text, own]
    exact ⟨.of_ne (by decide), config.literalEscape.tokens_append admitted fun _ d _ head _ => (follows rfl d head).1⟩
  | fail => contradiction
  | append left right ihl ihr =>
    obtain ⟨first, second⟩ := Fragment.failure_append_eq_none.mp whole
    obtain ⟨between, tail⟩ := ihr second follows
    obtain ⟨before, head⟩ := ihl first between
    rw [Fragment.sql_append first, String.toList_append, List.append_assoc, Fragment.tokens_append first, head, tail,
      List.append_assoc]
    exact ⟨before, rfl⟩
  | inClause clause phrase ih =>
    rw [Fragment.sql_inClause, Fragment.tokens_inClause]
    exact ih whole follows
  | loosen phrase ih => exact ⟨.of_ne (by decide), (ih whole follows).2⟩
  | tighten phrase ih => exact ih whole (.of_ne (by decide))
  | congr phrase same ih => exact ih whole follows

/-- Where Spanner renders a statement, its text has the tokens of its marks. -/
theorem Statement.tokens_sql {statement : Statement} {config : Config} (unquoted : statement.Unquoted config)
    {rendering : Rendering} (rendered : statement.render ⟨.spanner, config⟩ = .ok rendering) :
    (Render.statement ⟨.spanner, config⟩ statement).failure = none ∧
      config.literalEscape.tokens rendering.sql.toList =
        (Render.statement ⟨.spanner, config⟩ statement).tokens config := by
  have phrased : (Node.statement statement).Phrased config fun name => '\'' ∉ name.toList :=
    Render.node_phrased _ unquoted.2 unquoted.1
  rw [render, Fragment.rendering] at rendered
  split at rendered
  · contradiction
  · next whole =>
    cases rendered
    have ended : Joint.tight.Precedes [] := fun _ => .nil
    have tokens := (phrased.alone.tokens_append whole ended).2
    rw [List.append_nil] at tokens
    exact ⟨whole, tokens.trans (List.append_nil _)⟩

/-- The parentheses of a rendering are those of its marks. -/
theorem Statement.depth?_sql {statement : Statement} {target : Target} (unquoted : statement.Unquoted target.config)
    {rendering : Rendering} (rendered : statement.render target = .ok rendering) (depth : Nat) :
    (Render.statement target statement).failure = none ∧
      ScanToken.depth? depth (target.config.literalEscape.tokens rendering.sql.toList) =
        ScanToken.depth? depth ((Render.statement target statement).tokens target.config) := by
  obtain ⟨form, same, reads⟩ := statement.opens target
  have own : Render.statement target statement = form.fill .own := by
    rw [← congrFun same .own, statement.withContents_own]
  have segment (mark : OpenMark) : (mark.fill .own).tokens target.config =
      ScanToken.ofPieces ((mark.segment target.config).pieces target.config.literalEscape .own) := by
    cases mark with
    | fixed mark => rfl
    | slot path text => exact LiteralEscape.tokens_quote_alone text
  have depths (marks : List OpenMark) (depth : Nat) :
      ScanToken.depth? depth
        (ScanToken.ofPieces (Template.pieces target.config .own (marks.map (OpenMark.segment target.config)))) =
      ScanToken.depth? depth ((marks.map (OpenMark.fill .own)).flatMap (Mark.tokens target.config)) := by
    induction marks generalizing depth with
    | nil => rfl
    | cons mark marks ih =>
      rw [List.map_cons, List.map_cons, List.flatMap_cons, segment, ScanToken.depth?_append,
        Template.pieces, List.flatMap_cons, ScanToken.depth?_ofPieces_append]
      exact congrArg _ (funext ih)
  rw [render, own] at rendered
  rw [own]
  cases failure : form.failure with
  | some cause =>
    have failed : (form.fill .own).failure = some cause := failure
    rw [Fragment.rendering, failed] at rendered
    contradiction
  | none =>
    rw [form.rendering_fill target.config .own failure] at rendered
    cases rendered
    obtain ⟨_, whole, _⟩ := reads unquoted failure .own [] fun _ => (Option.some_ne_none _).symm
    rw [List.append_nil] at whole
    refine ⟨failure, ?_⟩
    rw [LiteralEscape.tokens, whole]
    exact (congrArg (fun pieces => ScanToken.depth? depth (ScanToken.ofPieces pieces)) (List.append_nil _)).trans
      (depths form.marks depth)

end PortableSql
