import PortableSql.Proofs.NumeralText
import PortableSql.Proofs.PhraseNode
import PortableSql.Proofs.Template

/-! Constructs that Spanner lacks, and does not write.

Text can go on from a joint (`Joint.Continues`) if it begins as the joint has it and its tokens are clean. A text
carries this over (`Joint.Carries`) if what can go on from its end can, with the text in front, go on from where
it begins; every phrase does, so that from the end of a statement the whole of it is clean
(`Statement.render_available`).
-/

set_option autoImplicit false

namespace PortableSql

namespace Spanner

/-- The constructs that Spanner lacks, by the words that only they are written with. -/
def missing : List (List String) :=
  [["lateral"], ["ilike"], ["escape"], ["conflict"], ["constraint"], ["distinct", "from"], ["for", "update"],
    ["for", "share"], ["nowait"], ["skip", "locked"], ["fetch", "first"], ["rows", "only"]]

/-- Whether a name is an identifier that is no word of a missing construct. -/
structure Identifier (name : String) : Prop where
  inhabited : name ≠ ""
  letters : name.toList.all ScanToken.isLetter = true
  free : ∀ construct ∈ missing, name ∉ construct

instance (name : String) : Decidable (Identifier name) :=
  decidable_of_iff (name ≠ "" ∧ name.toList.all ScanToken.isLetter = true ∧ ∀ construct ∈ missing, name ∉ construct)
    ⟨fun ⟨inhabited, letters, free⟩ => ⟨inhabited, letters, free⟩,
      fun name => ⟨name.inhabited, name.letters, name.free⟩⟩

namespace Clean

variable {first second tokens : List ScanToken}

theorem append (left : Clean first) (right : Clean second)
    (apart : first.getLast? = some (.ofWord "distinct") → second.head? ≠ some (.ofWord "from")) :
    Clean (first ++ second) where
  unwritten word mem inside :=
    (List.mem_append.mp inside).elim (left.unwritten word mem) (right.unwritten word mem)
  apart := List.isChain_append.mpr ⟨left.apart, right.apart, fun _ last _ head ⟨distinct, source⟩ =>
    apart (distinct ▸ last) (source ▸ head)⟩

/-- Tokens without any of the words. -/
theorem of_notMem (absent : ∀ word ∈ "distinct" :: Spanner.unwritten, .ofWord word ∉ tokens) : Clean tokens where
  unwritten word mem := absent word (.tail _ mem)
  apart := (List.pairwise_of_forall_mem_list fun _ mem _ _ ⟨distinct, _⟩ =>
    absent "distinct" (.head _) (distinct ▸ mem)).isChain

/-- In clean tokens there is no missing construct. -/
theorem not_missing (clean : Clean tokens) {construct : List String} (mem : construct ∈ missing) :
    ¬ construct.map ScanToken.ofWord <:+: tokens := by
  intro inside
  have known : (∃ word ∈ construct, word ∈ Spanner.unwritten) ∨ construct = ["distinct", "from"] := by
    clear inside
    revert construct
    decide
  rcases known with ⟨word, own, unwritten⟩ | rfl
  · exact clean.unwritten word unwritten (inside.subset (List.mem_map_of_mem own))
  · have pair := clean.apart.infix inside
    exact absurd ⟨rfl, rfl⟩ (List.isChain_cons_cons.mp pair).1

end Clean

end Spanner

open Spanner (Clean)

namespace Joint

variable {style : LiteralEscape} {before between after : Joint}

/-- Whether a text can go on from a joint. -/
structure Continues (style : LiteralEscape) (joint : Joint) (text : List Char) : Prop where
  begins : joint.begins text.head? (style.tokens text).head? = true
  clean : Clean (style.tokens text)

theorem Continues.loosen {text : List Char} (rest : before.Continues style text) : Joint.loose.Continues style text :=
  ⟨rfl, rest.clean⟩

/-- Whether a text goes on from a joint wherever what follows it goes on from another. -/
def Carries (style : LiteralEscape) (before : Joint) (text : List Char) (after : Joint) : Prop :=
  ∀ rest, after.Continues style rest → before.Continues style (text ++ rest)

namespace Carries

variable {first second text : List Char}

theorem nil (joint : Joint) : Carries style joint [] joint := fun _ => id

theorem append (left : Carries style before first between) (right : Carries style between second after) :
    Carries style before (first ++ second) after := by
  intro rest follows
  rw [List.append_assoc]
  exact left _ (right rest follows)

/-- A text whose tokens are known wherever it stands. -/
theorem of_tokens {own : List ScanToken} (inhabited : text ≠ []) (clean : Clean own)
    (begins : before.begins text.head? own.head? = true)
    (apart : after = .distinct ∨ own.getLast? ≠ some (.ofWord "distinct"))
    (same : ∀ rest, after.Continues style rest → style.tokens (text ++ rest) = own ++ style.tokens rest) :
    Carries style before text after := by
  intro rest follows
  have whole : Clean (own ++ style.tokens rest) := by
    refine clean.append follows.clean fun last head => ?_
    have begins := follows.begins
    rcases apart with rfl | other
    · rw [head] at begins
      contradiction
    · exact other last
  refine ⟨?_, same rest follows ▸ whole⟩
  rw [same rest follows, List.head?_append_of_ne_nil _ inhabited]
  cases before with
  | loose => rfl
  | tight => exact begins
  | distinct =>
    cases own with
    | nil => contradiction
    | cons token own => exact begins

/-- The last letter of a text, if it is one, is one that nothing goes on from. -/
theorem of_takes (takes : before.Takes text after) : Carries style before text after := by
  have ends := takes.ends
  refine of_tokens takes.inhabited takes.clean takes.begins ?_ fun rest follows => ?_
  · cases after with
    | loose | tight => simp_all [Joint.ends]
    | distinct => exact .inl rfl
  · refine style.tokens_append takes.unquoted fun c d last head letter => ?_
    have begins := follows.begins
    cases after with
    | loose | distinct => simp_all [Joint.ends]
    | tight => simp_all [Joint.begins]

theorem of_spells {words : String} (spells : before.Spells words after) : Carries style before words.toList after :=
  of_takes spells

theorem quote (content : String) : Carries style .distinct (style.quote content).toList .tight := by
  have clean : Clean [.literal content.toList] := .of_notMem fun word _ mem => nomatch List.mem_singleton.mp mem
  refine of_tokens ?_ clean rfl (.inr nofun) fun rest follows => ?_
  · simp [LiteralEscape.quote]
  · refine style.tokens_quote content fun head => ?_
    have begins := follows.begins
    simp [Joint.begins, head] at begins

theorem name {name : String} (identifier : Spanner.Identifier name) : Carries style .distinct name.toList .tight := by
  have inhabited : name.toList ≠ [] := fun empty => identifier.inhabited (String.toList_inj.mp empty)
  have own : ScanToken.ofText name.toList = [.ofWord name] := ScanToken.ofText_letters inhabited identifier.letters
  have unquoted : '\'' ∉ name.toList := fun quote =>
    absurd (List.all_eq_true.mp identifier.letters _ quote) (by decide)
  -- The words that are looked for are all words of missing constructs.
  have other (word : String) (listed : ∃ construct ∈ Spanner.missing, word ∈ construct) :
      ScanToken.ofWord name ≠ .ofWord word := by
    intro same
    obtain ⟨construct, mem, inside⟩ := listed
    exact identifier.free construct mem (String.toList_inj.mp (ScanToken.word.inj same) ▸ inside)
  refine of_takes ⟨inhabited, unquoted, ?_, ?_, ?_⟩
  · refine own ▸ .of_notMem fun word mem inside => other word ?_ (List.mem_singleton.mp inside).symm
    clear inside
    revert word
    decide
  · rw [own]
    exact bne_iff_ne.mpr (other "from" (by decide))
  · rw [own]
    exact bne_iff_ne.mpr fun same => other "distinct" (by decide) (Option.some.inj same)

theorem loosen (carries : Carries style before text after) : Carries style .loose text after :=
  fun rest follows => (carries rest follows).loosen

theorem names {names : List String} (identifiers : ∀ name ∈ names, Spanner.Identifier name) :
    Carries style .loose (String.intercalate "," names).toList .tight := by
  induction names with
  | nil => exact fun rest follows => follows.loosen
  | cons first names ih =>
    obtain ⟨own, others⟩ := List.forall_mem_cons.mp identifiers
    have head : Carries style .loose first.toList .tight := (name own).loosen
    cases names with
    | nil =>
      rw [String.intercalate_singleton]
      exact head
    | cons second names =>
      rw [String.intercalate_cons_cons, String.toList_append, String.toList_append]
      exact (head.append (of_spells .comma)).append (ih others)

/-- A number is made of no letters but the one for powers, so that none of the words is in it. -/
theorem figures (figures : Figures text) (inhabited : text ≠ []) : Carries style .distinct text .tight := by
  have absent (word : String) (foreign : word.toList.all isFigure = false) :
      .ofWord word ∉ ScanToken.ofText text := by
    intro mem
    have all : word.toList.all isFigure = true :=
      List.all_eq_true.mpr fun c own => figures c (ScanToken.subset_of_mem_ofText mem own)
    rw [all] at foreign
    contradiction
  obtain ⟨token, tokens, same⟩ : ∃ token tokens, ScanToken.ofText text = token :: tokens := by
    obtain ⟨c, rest, rfl⟩ := List.exists_cons_of_ne_nil inhabited
    exact ScanToken.ofText_cons (Figures.isWhitespace_eq_false (figures c List.mem_cons_self))
  refine of_takes ⟨inhabited, fun quote => absurd (figures _ quote) (by decide), ?_, ?_, ?_⟩
  · exact .of_notMem (List.forall_mem_cons.mpr ⟨absent _ (by decide), fun word mem => absent word (by
      revert word
      decide)⟩)
  · have first : token ≠ .ofWord "from" := fun source => absent "from" (by decide) (by simp [same, source])
    rw [same]
    exact bne_iff_ne.mpr first
  · exact bne_iff_ne.mpr fun last => absent "distinct" (by decide) (List.mem_of_getLast? last)

/-- A literal after a word. -/
theorem quoted {word opening content : String} (opens : opening = word ++ "'") (spells : before.Spells word .loose)
    (ordinary : content.toList.all LiteralEscape.isOrdinary = true) :
    Carries style before (opening ++ content ++ "'").toList .tight := by
  have shape : opening ++ content ++ "'" = word ++ style.quote content := by
    rw [opens, style.quote_plain ordinary, String.append_assoc, String.append_assoc, String.append_assoc]
  rw [shape, String.toList_append]
  exact (of_spells spells).append (quote content).loosen

/-- A number that is not finite is a literal that is cast to a type. -/
theorem cast {content type : String} (ordinary : content.toList.all LiteralEscape.isOrdinary = true)
    (named : Spanner.Identifier type) :
    Carries style .distinct ("cast('" ++ content ++ "' as " ++ type ++ ")").toList .tight := by
  have shape : ("cast('" ++ content ++ "' as " ++ type ++ ")").toList =
      ("cast('" ++ content ++ "'").toList ++ " as ".toList ++ type.toList ++ ")".toList := by
    have middle : "' as " = "'" ++ " as " := by decide
    simp only [middle, String.toList_append, List.append_assoc]
  have word : Joint.distinct.Spells "cast(" .loose := by decide
  have apart : Joint.tight.Spells " as " .loose := by decide
  have closing : Joint.tight.Spells ")" .tight := by decide
  rw [shape]
  exact (((quoted (by decide) word ordinary).append (of_spells apart)).append (name named).loosen).append
    (of_spells closing)

variable {config : Config}

theorem value (double : Spanner.Identifier (config.typeName .double)) (value : Value) :
    Carries config.literalEscape .distinct ((value.fragment config).sql config).toList .tight := by
  cases value with
  | null =>
    rw [Value.fragment, Fragment.sql_text]
    exact of_spells (by decide)
  | bool value =>
    rw [Value.fragment, Fragment.sql_text]
    cases value <;> exact of_spells (by decide)
  | int value =>
    rw [Value.fragment, Fragment.sql_text]
    exact figures (.toString _) (Figures.toString_ne_nil _)
  | float value =>
    rw [Value.fragment, Fragment.sql_text, Value.floatText]
    split
    · rw [String.toList_ofList]
      exact figures (.float _ value) (Figures.float_ne_nil _ value)
    · refine cast ?_ double
      split_ifs <;> decide
  | string text =>
    rw [Value.fragment, Fragment.sql_literal]
    exact quote text
  | date value =>
    have word : Joint.distinct.Spells "date " .loose := by decide
    rw [Value.fragment, Fragment.sql_text]
    exact quoted (by decide) word (Numeral.date value).ordinary
  | timestamp value =>
    have word : Joint.distinct.Spells "timestamp " .loose := by decide
    rw [Value.fragment, Fragment.sql_text]
    exact quoted (by decide) word (Numeral.timestamp rfl value).ordinary

/-- The constant that groups everything. -/
theorem bucket : Carries style .loose "'0' || '0'".toList .tight := by
  have shape : "'0' || '0'".toList = (style.quote "0").toList ++ " || ".toList ++ (style.quote "0").toList := by
    rw [style.quote_plain (by decide)]
    decide
  have between : Joint.tight.Spells " || " .loose := by decide
  rw [shape]
  exact ((quote "0").loosen.append (of_spells between)).append (quote "0").loosen

end Carries

end Joint

open Joint (Carries)

/-- The text of a phrase carries over from the end of the phrase to where it begins. -/
theorem Spanner.Phrase.carries {config : Config} {before after : Joint} {fragment : Fragment} {mentions : List Mark}
    (phrase : Phrase config Identifier before fragment mentions after) (whole : fragment.failure = none) :
    Carries config.literalEscape before (fragment.sql config).toList after := by
  induction phrase with
  | nil joint => exact .nil joint
  | words spells =>
    rw [Fragment.sql_text]
    exact .of_spells spells
  | name admitted =>
    rw [Fragment.sql_text]
    exact .name admitted
  | names admitted =>
    rw [Fragment.names, Fragment.sql_text]
    exact .names admitted
  | value value double => exact .value double value
  | literal content =>
    rw [Fragment.sql_literal]
    exact .quote content
  | bucket =>
    rw [Fragment.sql_text]
    exact .bucket
  | placeholder parameter =>
    rw [Fragment.sql_placeholder]
    exact .of_spells (by decide)
  | @table name admitted =>
    have text : (Fragment.table name).sql config = name := by
      simp [Fragment.sql, Fragment.table, Mark.sqlText, Mark.sql]
    rw [text]
    exact (Carries.name admitted).loosen
  | lock joint | offer joint => exact .nil joint
  | fail => contradiction
  | append left right ihl ihr =>
    obtain ⟨first, second⟩ := Fragment.failure_append_eq_none.mp whole
    rw [Fragment.sql_append first, String.toList_append]
    exact (ihl first).append (ihr second)
  | inClause clause phrase ih =>
    rw [Fragment.sql_inClause]
    exact ih whole
  | loosen phrase ih => exact (ih whole).loosen
  | tighten phrase ih => exact fun rest follows => ih whole rest follows.loosen
  | congr phrase same ih => exact ih whole

/-- In a statement that Spanner renders there is no construct that Spanner lacks, and but for `distinct` not even
the word that it begins with, if names are identifiers and no words of such constructs. -/
theorem Statement.render_available (statement : Statement) (config : Config)
    (names : ∀ node, (Node.statement statement).Within node → ∀ name ∈ node.names, Spanner.Identifier name)
    (texts : ∀ text ∈ config.statementTexts, Spanner.Identifier text)
    {rendering : Rendering} (rendered : statement.render ⟨.spanner, config⟩ = .ok rendering) :
    (∀ construct ∈ Spanner.missing,
      ¬ construct.map ScanToken.ofWord <:+: config.literalEscape.tokens rendering.sql.toList) ∧
      ∀ word ∈ Spanner.unwritten, .ofWord word ∉ config.literalEscape.tokens rendering.sql.toList := by
  have phrased : (Node.statement statement).Phrased config Spanner.Identifier :=
    Render.node_phrased _ texts names
  rw [render, Fragment.rendering] at rendered
  split at rendered
  · contradiction
  · next whole =>
    cases rendered
    have ended : Joint.tight.Continues config.literalEscape [] := ⟨rfl, .of_notMem fun _ _ => List.not_mem_nil⟩
    have carried := (phrased.alone.carries whole [] ended).clean
    rw [List.append_nil] at carried
    exact ⟨fun construct mem => carried.not_missing mem, carried.unwritten⟩

/-- `select distinct a from t join lateral (select b from u) d where a is distinct from ? and a ilike 'x!_' escape
'!' fetch first 3 rows only for update`, in the standard rendering. -/
def Statement.selectLocked : Statement :=
  .select ⟨true, [⟨.column { name := "a" }, none⟩],
    [⟨.named { table := "t" }, [⟨.inner, .derived ⟨.query ⟨false, [⟨.column { name := "b" }, none⟩],
      [⟨.named { table := "u" }, []⟩], none, [], none, [], none, none, none⟩, "d", [], true⟩, none⟩]⟩],
    some (.junction .and [.comparison (.column { name := "a" }) .distinctFrom (.parameter {}),
      .like ⟨.column { name := "a" }, .literal (.string "x!_"), some (.literal (.string "!")), false, false⟩]),
    [], none, [], none, some (.literal (.int 3)), some { mode := .write }⟩

theorem Statement.render_available_selectLocked :
    (∀ node, (Node.statement selectLocked).Within node → ∀ name ∈ node.names, Spanner.Identifier name) ∧
      (∀ text ∈ Config.spanner.statementTexts, Spanner.Identifier text) ∧
      ∃ rendering, selectLocked.render ⟨.spanner, .spanner⟩ = .ok rendering ∧
        rendering.sql = "select distinct a from t join unnest(array(select as struct b from u)) d where " ++
          "not exists (select a intersect select ?) and lower(a) like lower('x\\\\_') limit 3" ∧
        (∀ construct ∈ Spanner.missing,
          ¬ construct.map ScanToken.ofWord <:+: LiteralEscape.backslash.tokens rendering.sql.toList) ∧
        ∀ word ∈ Spanner.unwritten, .ofWord word ∉ LiteralEscape.backslash.tokens rendering.sql.toList := by
  have names : (Node.statement selectLocked).Everywhere fun node => ∀ name ∈ node.names, Spanner.Identifier name := by
    simp [selectLocked, Node.everywhere_iff, Node.children, Query.nodes, Predicate.nodes, Like.nodes, Expr.nodes,
      TableGroup.nodes, Join.nodes, TableRef.nodes, Node.names, NamedTable.names, DerivedTable.names, ColumnRef.names]
    decide
  have texts : ∀ text ∈ Config.spanner.statementTexts, Spanner.Identifier text := by decide
  exact ⟨names, texts, _, rfl, by decide +kernel, selectLocked.render_available .spanner names texts rfl⟩

end PortableSql
