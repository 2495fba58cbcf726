import PortableSql.Proofs.LiteralContents
import PortableSql.Proofs.OperandStart

/-! No comment opens in a statement.

Names and the texts of the configuration are to have no quotes and no signs of comments. What the renderer
writes is calm then, but for the signs of a subtraction and of a division, which open a comment with a right
operand that is a negative number or a star.
-/

set_option autoImplicit false

namespace PortableSql

theorem IsWord.signless {words : String} (word : IsWord words) : Signless words.toList := by
  intro c mem
  refine Bool.eq_false_iff.mpr fun sign => ?_
  have signs : "-/#".toList.all (!isWordChar ·) = true := by decide
  have foreign := List.all_eq_true.mp signs c (List.contains_iff_mem.mp sign)
  rw [List.all_eq_true.mp word.2 c mem] at foreign
  contradiction

namespace LiteralEscape

variable (style : LiteralEscape)

/-- Text without quotes is scanned as it is. -/
theorem calm_scan {text : List Char} (unquoted : '\'' ∉ text) (calm : Calm (text.map .other)) :
    Calm (style.scan text) := by
  have same := style.scan_other unquoted []
  rw [List.append_nil] at same
  rw [same]
  exact calm.append .nil

/-- A literal after a word, with calm text behind. -/
theorem calm_quoted (word : String) {opening content : String} {rest : List Char} (opens : opening = word ++ "'")
    (start : '\'' ∉ word.toList) (signless : Signless word.toList)
    (ordinary : content.toList.all isOrdinary = true) (apart : rest.head? ≠ some '\'')
    (calm : Calm (style.scan rest)) : Calm (style.scan ((opening ++ content ++ "'").toList ++ rest)) := by
  have shape : opening ++ content ++ "'" = word ++ style.quote content := by
    rw [opens, style.quote_plain ordinary, String.append_assoc, String.append_assoc, String.append_assoc]
  rw [shape, String.toList_append, List.append_assoc, style.scan_other start, style.scan_quote content apart]
  exact (Calm.signless signless).append ((Calm.literal _).append calm)

/-- A literal after a word, at the end of a text. -/
theorem calm_quoted_alone (word : String) {opening content : String} (opens : opening = word ++ "'")
    (start : '\'' ∉ word.toList) (signless : Signless word.toList)
    (ordinary : content.toList.all isOrdinary = true) : Calm (style.scan (opening ++ content ++ "'").toList) := by
  have apart : ([] : List Char).head? ≠ some '\'' := nofun
  have calm := style.calm_quoted word opens start signless ordinary apart .nil
  rwa [List.append_nil] at calm

/-- A sign and its right operand up to a bracket, if the sign takes the operand. -/
theorem calm_operand {sign : Char} {operand : List Char} (splits : style.Splits false operand true)
    (calm : Calm (style.scan operand)) (quote : sign ≠ '\'') (mark : sign ≠ '#')
    (takes : ∀ c, operand.head? = some c → opensPair sign c = false) (closing : opensPair sign ')' = false) :
    Calm (style.scan (sign :: (operand ++ [')']))) := by
  have bracket : style.Splits true [')'] false := .words (by decide) (List.cons_ne_nil _ _)
  have scanned : style.scan (operand ++ [')']) = style.scan operand ++ [.other ')'] :=
    splits.scan_append bracket
  have closed : Calm ([')'].map .other) := .signless (.of_all (by decide))
  have whole : Calm (style.scan (operand ++ [')'])) := scanned ▸ calm.append closed
  have first : style.scan (sign :: (operand ++ [')'])) = .other sign :: style.scan (operand ++ [')']) := by
    rw [scan, scanFrom, if_neg quote]
    rfl
  rw [first]
  refine whole.cons (by simp [scanned]) mark fun d head => ?_
  have head := style.head_of_scan head
  cases operand with
  | nil =>
    cases head
    exact closing
  | cons c operand =>
    cases head
    exact takes d rfl

end LiteralEscape

theorem Value.floatText_calm {config : Config} (double : PlainWords (config.typeName .double)) (value : Float) :
    Calm (config.literalEscape.scan (Value.floatText config value).toList) := by
  have tail : Calm (config.literalEscape.scan (" as " ++ config.typeName .double ++ ")").toList) := by
    refine config.literalEscape.calm_scan ?_ (.signless ?_)
    · simpa using double.unquoted
    · rw [String.toList_append, String.toList_append, Signless, List.forall_mem_append, List.forall_mem_append]
      exact ⟨⟨Signless.of_all (by decide), double.signless⟩, Signless.of_all (by decide)⟩
  have cast {name : String} (ordinary : name.toList.all LiteralEscape.isOrdinary = true) :
      Calm (config.literalEscape.scan ("cast('" ++ name ++ "' as " ++ config.typeName .double ++ ")").toList) := by
    have shape : ("cast('" ++ name ++ "' as " ++ config.typeName .double ++ ")").toList =
        ("cast('" ++ name ++ "'").toList ++ (" as " ++ config.typeName .double ++ ")").toList := by
      have middle : "' as " = "'" ++ " as " := by decide
      simp only [middle, String.toList_append, List.append_assoc]
    rw [shape]
    refine config.literalEscape.calm_quoted "cast(" (by decide) (by decide) (.of_all (by decide)) ordinary ?_ tail
    simp
  rw [Value.floatText]
  split
  · rw [String.toList_ofList]
    exact config.literalEscape.calm_scan ((Numeral.float _ value).not_mem rfl) (.float _ value)
  · refine cast ?_
    split_ifs <;> decide

/-- A value that is not a string opens no comment. -/
theorem Value.calm {config : Config} (double : PlainWords (config.typeName .double)) (value : Value)
    (other : ∀ text, value ≠ .string text) :
    Calm (config.literalEscape.scan ((value.fragment config).sql config).toList) := by
  have word {words : String} (unquoted : '\'' ∉ words.toList) (signless : Signless words.toList) :
      Calm (config.literalEscape.scan words.toList) :=
    config.literalEscape.calm_scan unquoted (.signless signless)
  cases value with
  | string text => exact absurd rfl (other text)
  | null =>
    rw [Value.fragment, Fragment.sql_text]
    exact word (by decide) (.of_all (by decide))
  | bool value =>
    rw [Value.fragment, Fragment.sql_text]
    cases value <;> exact word (by decide) (.of_all (by decide))
  | int value =>
    rw [Value.fragment, Fragment.sql_text]
    exact config.literalEscape.calm_scan ((Numeral.toString _).not_mem rfl) (.int _)
  | float value =>
    rw [Value.fragment, Fragment.sql_text]
    exact Value.floatText_calm double value
  | date value =>
    rw [Value.fragment, Fragment.sql_text]
    exact config.literalEscape.calm_quoted_alone "date " (by decide) (by decide) (.of_all (by decide))
      (Numeral.date value).ordinary
  | timestamp value =>
    rw [Value.fragment, Fragment.sql_text]
    exact config.literalEscape.calm_quoted_alone "timestamp " (by decide) (by decide) (.of_all (by decide))
      (Numeral.timestamp rfl value).ordinary

/-- Whether a scanner takes a family apart from what surrounds it, and no comment opens in it. -/
structure Quiet (config : Config) (before : Bool) (family : Family) (after : Bool) : Prop where
  opens : Opens config True before family after
  calm : (family .own).failure = none → Calm (config.literalEscape.scan ((family .own).sql config).toList)

namespace Opens

variable {config : Config} {before after : Bool} {family : Family}

theorem splits (piece : Opens config True before family after) (whole : (family .own).failure = none) :
    config.literalEscape.Splits before ((family .own).sql config).toList after := by
  obtain ⟨form, rfl, reads⟩ := piece
  have same : (form.fill .own).sql config = (form.template config).text config .own :=
    form.sqlText_fill config .own
  have alone := (reads trivial whole .own [] nofun).2.1
  rw [List.append_nil] at alone
  intro rest apart
  obtain ⟨opening, scanned, _⟩ := reads trivial whole .own rest apart
  rw [same, scanned, alone]
  exact ⟨opening, by rw [List.append_assoc]; rfl⟩

end Opens

namespace Quiet

variable {config : Config} {before between after : Bool} {family first second : Family}

/-- A text in which no comment opens. -/
theorem text {words : String} (opens : Opens config True before (fun _ => .text words) after)
    (calm : Calm (config.literalEscape.scan words.toList)) : Quiet config before (fun _ => .text words) after :=
  ⟨opens, fun _ => by rwa [Fragment.sql_text]⟩

theorem silent (opens : Opens config True before family after) (silent : (family .own).sql config = "") :
    Quiet config before family after :=
  ⟨opens, fun _ => silent ▸ Calm.nil⟩

theorem append (left : Quiet config before first between) (right : Quiet config between second after) :
    Quiet config before (fun contents => first contents ++ second contents) after := by
  refine ⟨left.opens.append right.opens, fun whole => ?_⟩
  obtain ⟨head, tail⟩ := Fragment.failure_append_eq_none.mp whole
  rw [Fragment.sql_append head, String.toList_append, (left.opens.splits head).scan_append (right.opens.splits tail)]
  exact (left.calm head).append (right.calm tail)

theorem signless {words : String} (opens : Opens config True before (fun _ => .text words) after)
    (unquoted : '\'' ∉ words.toList) (signless : Signless words.toList) :
    Quiet config before (fun _ => .text words) after :=
  text opens (config.literalEscape.calm_scan unquoted (.signless signless))

theorem word {words : String} (word : IsWord words) : Quiet config true (fun _ => .text words) false := by
  have unquoted : '\'' ∉ words.toList := fun quote => absurd (List.all_eq_true.mp word.2 _ quote) (by decide)
  exact signless (.text fun _ => .words unquoted fun empty => word.1 (String.toList_inj.mp empty)) unquoted
    word.signless

theorem names {names : List String} (edge : Bool) (each : ∀ name ∈ names, PlainWords name) :
    Quiet config edge (fun _ => .names names) edge := by
  have whole : PlainWords (String.intercalate "," names) := by
    refine .of_not_mem fun c special => ?_
    have apart : c ∉ ",".toList := fun comma => by
      obtain rfl := List.mem_singleton.mp comma
      contradiction
    exact not_mem_intercalate apart fun name mem => (each name mem).not_mem special
  exact signless (.text fun _ => .plain edge whole.unquoted) whole.unquoted whole.signless

theorem literal {contents : Contents → String} (opens : Opens config True false (fun c => .literal (contents c)) true) :
    Quiet config false (fun c => .literal (contents c)) true := by
  refine ⟨opens, fun _ => ?_⟩
  rw [Fragment.sql_literal, Config.quote, LiteralEscape.scan_quote_alone]
  exact .literal _

/-- The sign of an operator and its right operand up to a bracket. -/
theorem operand {r : Family} (op : ArithmeticOp) (right : Quiet config false r true)
    (takes : op.Takes ((r .own).sql config)) :
    Quiet config true (fun contents => .text op.text ++ (r contents ++ .text ")")) false := by
  have sign : Opens config True true (fun _ => .text op.text) false :=
    .text fun _ => .words (by cases op <;> decide) (by cases op <;> decide)
  have tail := right.append (word (by decide) : Quiet config true (fun _ => .text ")") false)
  refine ⟨sign.append tail.opens, fun whole => ?_⟩
  obtain ⟨written, _⟩ := Fragment.failure_append_eq_none.mp (Fragment.failure_append_eq_none.mp whole).2
  obtain ⟨c, same, quote, mark, closing⟩ :
      ∃ c, op.text.toList = [c] ∧ c ≠ '\'' ∧ c ≠ '#' ∧ opensPair c ')' = false := by
    cases op <;> exact ⟨_, rfl, by decide, by decide, by decide⟩
  have text : ((.text op.text ++ (r .own ++ .text ")") : Fragment).sql config).toList =
      c :: (((r .own).sql config).toList ++ [')']) := by
    rw [Fragment.sql_append (Fragment.failure_text _), Fragment.sql_append written, Fragment.sql_text,
      Fragment.sql_text, String.toList_append, String.toList_append, same]
    rfl
  rw [text]
  exact config.literalEscape.calm_operand (right.opens.splits written) (right.calm written) quote mark
    (takes c (by rw [same]; exact .head _)) closing

theorem operation {l r : Family} (op : ArithmeticOp) (left : Quiet config false l true)
    (right : Quiet config false r true) (takes : op.Takes ((r .own).sql config)) :
    Quiet config true (fun contents => .parens (l contents ++ .text op.text ++ r contents)) false := by
  have bracket : Quiet config true (fun _ => .text "(") false := word (by decide)
  simpa only [Fragment.parens, Fragment.append_assoc] using (bracket.append left).append (operand op right takes)

theorem composes (double : PlainWords (config.typeName .double)) :
    Composes config PlainWords (fun _ => True) (fun op r => op.Takes ((r .own).sql config)) (Quiet config) where
  nil edge := silent (.nil edge) rfl
  append := append
  weaken piece le ge := ⟨piece.opens.weaken le ge, piece.calm⟩
  word := word
  empty edge := silent (.text fun _ => .plain edge List.not_mem_nil) (Fragment.sql_text "")
  name edge plain := signless (.name edge fun _ => plain.unquoted) plain.unquoted plain.signless
  names := names
  value value other := ⟨.value (fun _ => double.unquoted) value other, fun _ => value.calm double other⟩
  bucket := by
    refine text .bucket ?_
    have pieces : config.literalEscape.scan "'0' || '0'".toList =
        .literal ['0'] :: " || ".toList.map .other ++ [.literal ['0']] := by
      cases config.literalEscape <;> rfl
    rw [pieces]
    exact ((Calm.literal _).append (.signless (.of_all (by decide)))).append (.literal _)
  literal _ := literal (.literal _)
  slot _ := literal (.slot _)
  backslashed _ := id
  operation := operation
  placeholder parameter := ⟨.placeholder parameter, fun _ => by
    rw [Fragment.sql_placeholder]
    exact config.literalEscape.calm_scan (by decide) (.signless (.of_all (by decide)))⟩
  table edge name := silent (.note edge _ rfl) rfl
  lock edge answer chosen := silent (.note edge _ rfl) rfl
  fail cause := ⟨.fail cause, nofun⟩
  inClause clause piece := ⟨piece.opens.inClause clause, by simpa using piece.calm⟩
  offered construct piece := ⟨piece.opens.offered construct, fun whole => by
    rw [Fragment.sql_append rfl, Fragment.sql_offer, String.empty_append]
    exact piece.calm (Fragment.failure_append_eq_none.mp whole).2⟩
  standard construct piece := (silent (.note _ _ rfl) rfl).append piece
  below branch piece := ⟨piece.opens.below branch, piece.calm⟩
  own piece := ⟨piece.opens.own, piece.calm⟩

end Quiet

/-- Whether the names of a statement, and the texts of the configuration in it, have no quotes and no signs of
comments, and no star is the right operand of an operator. -/
structure Statement.Plain (statement : Statement) (config : Config) : Prop where
  names (node : Node) : (Node.statement statement).Within node → ∀ name ∈ node.names, PlainWords name
  texts : ∀ words ∈ config.statementTexts, PlainWords words
  stars (left : Expr) (op : ArithmeticOp) (right : Expr) :
    (Node.statement statement).Within (.expr (.arithmetic left op right)) → right ≠ .star

/-- No comment opens outside of the literals of a statement, unless it subtracts a negative number. -/
theorem Statement.render_commentFree (statement : Statement) (target : Target)
    (plain : statement.Plain target.config)
    (unsigned : ∀ left right, (Node.statement statement).Within (.expr (.arithmetic left .subtract right)) →
      right.isNegative = false) {rendering : Rendering} (rendered : statement.render target = .ok rendering) :
    ¬ OpensComment (target.config.literalEscape.scan rendering.sql.toList) := by
  have rules := Quiet.composes (plain.texts (target.config.typeName .double) (.tail _ (.head _)))
  have quiet : Quiet target.config true
      (fun contents => Render.statement target (statement.withContents contents)) true :=
    rules.node (plain.texts target.config.lowercaseFunction (.head _)) (.statement statement)
      { names := plain.names
        strings := fun _ _ _ _ => trivial
        operands := fun left op right within => by
          have names := plain.names (.expr right) (within.tail (.tail _ (.head _)))
          have takes := Render.expr_takes target op names (plain.stars left op right within)
            fun minus => unsigned left right (minus ▸ within)
          simpa only [Contents.below_own, Expr.revise_own] using takes } {} nofun
  have written := quiet.calm
  simp only [statement.withContents_own] at written
  rw [render, Fragment.rendering] at rendered
  cases failure : (Render.statement target statement).failure with
  | some cause =>
    rw [failure] at rendered
    contradiction
  | none =>
    rw [failure] at rendered
    cases rendered
    exact (written failure).not_opens

/-- `update t set a=(a-value)` -/
def Statement.decrease (value : Int64) : Statement :=
  .update {
    target := { table := "t" }
    assignments := [⟨{ name := "a" }, .arithmetic (.column { name := "a" }) .subtract (.literal (.int value))⟩] }

theorem Statement.decrease_within {value : Int64} {node : Node}
    (within : (Node.statement (decrease value)).Within node) :
    node = .statement (decrease value) ∨
      node = .expr (.arithmetic (.column { name := "a" }) .subtract (.literal (.int value))) ∨
      node = .expr (.column { name := "a" }) ∨ node = .expr (.literal (.int value)) := by
  rcases within.cases_head with rfl | ⟨child, mem, within⟩
  · exact .inl rfl
  obtain rfl := List.mem_singleton.mp mem
  rcases within.cases_head with rfl | ⟨child, mem, within⟩
  · exact .inr (.inl rfl)
  rcases List.mem_pair.mp mem with rfl | rfl
  · rcases within.cases_head with rfl | ⟨child, mem, within⟩
    · exact .inr (.inr (.inl rfl))
    · exact absurd mem List.not_mem_nil
  · rcases within.cases_head with rfl | ⟨child, mem, within⟩
    · exact .inr (.inr (.inr rfl))
    · exact absurd mem List.not_mem_nil

theorem Statement.decrease_operand {value : Int64} {left : Expr} {op : ArithmeticOp} {right : Expr}
    (within : (Node.statement (decrease value)).Within (.expr (.arithmetic left op right))) :
    right = .literal (.int value) := by
  rcases decrease_within within with same | same | same | same <;> cases same
  rfl

theorem Statement.decrease_plain (value : Int64) : (decrease value).Plain .generic where
  names node within := by
    rcases decrease_within within with rfl | rfl | rfl | rfl
    · show ∀ name ∈ ["t", "a"], PlainWords name
      decide
    · exact nofun
    · decide
    · exact nofun
  texts := by decide
  stars left op right within star := by
    cases (decrease_operand within).symm.trans star

/-- The decrease of a column by one. -/
theorem Statement.render_commentFree_decrease :
    (decrease 1).Plain .generic ∧
      (∀ left right, (Node.statement (decrease 1)).Within (.expr (.arithmetic left .subtract right)) →
        right.isNegative = false) ∧
      ∃ rendering, (decrease 1).render ⟨.generic, .generic⟩ = .ok rendering ∧
        ¬ OpensComment (LiteralEscape.standard.scan rendering.sql.toList) := by
  have unsigned (left right : Expr)
      (within : (Node.statement (decrease 1)).Within (.expr (.arithmetic left .subtract right))) :
      right.isNegative = false := by
    rw [decrease_operand within]
    decide
  have plain := decrease_plain 1
  exact ⟨plain, unsigned, _, rfl, (decrease 1).render_commentFree ⟨.generic, .generic⟩ plain unsigned rfl⟩

/-- The minus sign of an operator and that of a number open a comment. -/
theorem Statement.decrease_opens :
    (decrease (-1)).Plain .generic ∧
      ∃ rendering, (decrease (-1)).render ⟨.generic, .generic⟩ = .ok rendering ∧
        rendering.sql = "update t set a=(a--1)" ∧
        OpensComment (LiteralEscape.standard.scan rendering.sql.toList) := by
  refine ⟨decrease_plain (-1), _, rfl, rfl, ?_⟩
  show OpensComment (LiteralEscape.standard.scan "update t set a=(a--1)".toList)
  decide

end PortableSql
