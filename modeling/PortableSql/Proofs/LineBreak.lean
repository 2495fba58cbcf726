import PortableSql.Proofs.OwnCharacter

/-! Line breaks in a statement whose literals are escaped with backslashes.

A statement is written on one line if its names and its literals are: a renderer writes no line breaks of its
own, and a line feed in a literal is escaped. A carriage return in a literal is not, and it is the only line
break that a statement comes to have (`Statement.render_lineBreaks`).
-/

set_option autoImplicit false

namespace PortableSql

def lineBreaks : List Char := ['\n', '\r']

namespace LiteralEscape

theorem lineFeed_notMem_quote (text : String) : '\n' ∉ (backslash.quote text).toList := by
  have escaped (c : Char) : '\n' ∉ escape .backslash c := by
    by_cases special : c = '\\' ∨ c = '\'' ∨ c = '\n'
    · rcases special with rfl | rfl | rfl <;> decide
    · have plain : escape .backslash c = [c] := by grind [escape]
      grind
  have own : '\n' ∉ text.toList.flatMap (escape .backslash) := fun mem => by
    obtain ⟨c, _, mem⟩ := List.mem_flatMap.mp mem
    exact escaped c mem
  simpa [quote] using own

theorem carriageReturn_mem_quote {style : LiteralEscape} {text : String} :
    '\r' ∈ (style.quote text).toList ↔ '\r' ∈ text.toList := by
  refine ⟨fun mem => (mem_quote mem).resolve_right (by decide), fun mem => ?_⟩
  have plain : style.escape '\r' = ['\r'] := by cases style <;> rfl
  have inside : '\r' ∈ text.toList.flatMap style.escape :=
    List.mem_flatMap.mpr ⟨'\r', mem, plain ▸ List.mem_singleton_self _⟩
  simpa [quote] using inside

end LiteralEscape

theorem Mark.mem_sqlText {config : Config} {marks : List Mark} {c : Char} :
    c ∈ (sqlText config marks).toList ↔ ∃ mark ∈ marks, c ∈ (mark.sql config).toList := by
  rw [sqlText, String.toList_join, List.flatMap_map, List.mem_flatMap]

/-- A character that no mark has outside of literals is in the text of a literal, where it is in the text. -/
theorem Mark.mem_sqlText_of_keeps {config : Config} {marks : List Mark} {c : Char} {Content : String → Prop}
    (foreign : c ≠ '?') (keeps : ∀ mark ∈ marks, mark.Keeps c Content) :
    c ∈ (sqlText config marks).toList ↔
      ∃ content, .literal content ∈ marks ∧ c ∈ (config.quote content).toList := by
  rw [mem_sqlText]
  constructor
  · rintro ⟨mark, mem, inside⟩
    have kept := keeps mark mem
    cases mark with
    | text words => exact absurd inside kept
    | literal content => exact ⟨content, mem, inside⟩
    | placeholder => exact absurd (by simpa [sql] using inside) foreign
    | table | lock | offer => exact absurd inside List.not_mem_nil
  · rintro ⟨content, mem, inside⟩
    exact ⟨.literal content, mem, inside⟩

namespace Statement

/-- Whether a character stands in no name of a statement and in no text of the configuration in it. -/
def NamesLack (statement : Statement) (config : Config) (c : Char) : Prop :=
  (∀ node, (Node.statement statement).Within node → ∀ name ∈ node.names, c ∉ name.toList) ∧
    ∀ words ∈ config.statementTexts, c ∉ words.toList

/-- A string literal of a statement in whose content a character stands. -/
def HasString (statement : Statement) (c : Char) : Prop :=
  ∃ node, (Node.statement statement).Within node ∧ ∃ text ∈ node.strings, c ∈ text.toList

/-- A character that no name has stands in literals only, and there only if some literal of the statement
has it. -/
theorem marks_keep {statement : Statement} {target : Target} {c : Char} (foreign : isOwnChar c = false)
    (lack : statement.NamesLack target.config c) :
    ∀ mark ∈ (Render.statement target statement).marks,
      mark.Keeps c fun content => c ∈ content.toList → statement.HasString c := by
  have rules : Composes target.config (fun name => c ∉ name.toList)
      (fun content => c ∈ content.toList → statement.HasString c) (fun _ _ => True)
      fun _ family _ => Keeping c (fun content => c ∈ content.toList → statement.HasString c) family :=
    Keeping.composes foreign (lack.2 _ (.tail _ (.head _))) fun _ admitted mem =>
      admitted (Pattern.mem_of_mem_backslashed foreign mem)
  exact rules.alone <| rules.node (lack.2 _ (.head _)) (.statement statement) {
    names := lack.1
    strings := fun node within text mem inside => ⟨node, within, text, mem, inside⟩
    operands := fun _ _ _ _ => trivial }

/-- With names on one line a statement is on one line, but for the carriage returns in the literals that it
writes. -/
theorem render_lineBreaks (statement : Statement) (target : Target)
    (style : target.config.literalEscape = .backslash)
    (lack : ∀ c ∈ lineBreaks, statement.NamesLack target.config c) {rendering : Rendering}
    (rendered : statement.render target = .ok rendering) :
    '\n' ∉ rendering.sql.toList ∧
      ('\r' ∈ rendering.sql.toList ↔
        ∃ content, .literal content ∈ (Render.statement target statement).marks ∧ '\r' ∈ content.toList) ∧
      ('\r' ∈ rendering.sql.toList → statement.HasString '\r') := by
  obtain ⟨_, rfl⟩ := Fragment.rendering_eq_ok.mp rendered
  have lackReturn := lack '\r' (.tail _ (.head _))
  have feeds : '\n' ∈ (Mark.sqlText target.config (Render.statement target statement).marks).toList ↔
      ∃ content, .literal content ∈ (Render.statement target statement).marks ∧
        '\n' ∈ (target.config.quote content).toList :=
    Mark.mem_sqlText_of_keeps (by decide) (marks_keep (by decide) (lack '\n' (.head _)))
  have returns : '\r' ∈ (Mark.sqlText target.config (Render.statement target statement).marks).toList ↔
      ∃ content, .literal content ∈ (Render.statement target statement).marks ∧ '\r' ∈ content.toList :=
    (Mark.mem_sqlText_of_keeps (by decide) (marks_keep (by decide) lackReturn)).trans <|
      exists_congr fun _ => and_congr_right' LiteralEscape.carriageReturn_mem_quote
  refine ⟨fun feed => ?_, returns, fun mem => ?_⟩
  · obtain ⟨content, _, inside⟩ := feeds.mp feed
    rw [Config.quote, style] at inside
    exact LiteralEscape.lineFeed_notMem_quote content inside
  · obtain ⟨content, written, inside⟩ := returns.mp mem
    exact marks_keep (by decide) lackReturn _ written inside

/-- `select 'content'` -/
def selectText (content : String) : Statement :=
  .select { Query.empty with selections := [⟨.literal (.string content), none⟩] }

theorem selectText_within {content : String} {node : Node}
    (within : (Node.statement (selectText content)).Within node) :
    node.names = [] ∧ ∀ text ∈ node.strings, text = content := by
  rcases within.cases_head with rfl | ⟨child, mem, within⟩
  · exact ⟨rfl, nofun⟩
  obtain rfl := List.mem_singleton.mp mem
  rcases within.cases_head with rfl | ⟨child, mem, within⟩
  · exact ⟨rfl, nofun⟩
  obtain rfl := List.mem_singleton.mp mem
  rcases within.cases_head with rfl | ⟨child, mem, within⟩
  · exact ⟨rfl, fun text mem => List.mem_singleton.mp mem⟩
  · exact absurd mem List.not_mem_nil

theorem selectText_namesLack (content : String) :
    ∀ c ∈ lineBreaks, (selectText content).NamesLack .spanner c := by
  have unnamed (c : Char) (node : Node) (within : (Node.statement (selectText content)).Within node) :
      ∀ name ∈ node.names, c ∉ name.toList := by
    rw [(selectText_within within).1]
    exact nofun
  exact List.forall_mem_cons.mpr
    ⟨⟨unnamed _, by decide⟩, List.forall_mem_singleton.mpr ⟨unnamed _, by decide⟩⟩

/-- A line feed in a literal is escaped. -/
theorem render_lineBreaks_feed :
    Config.spanner.literalEscape = .backslash ∧
      (∀ c ∈ lineBreaks, (selectText "a\nb").NamesLack .spanner c) ∧
      ∃ rendering, (selectText "a\nb").render ⟨.spanner, .spanner⟩ = .ok rendering ∧
        rendering.sql = "select 'a\\nb'" ∧ '\n' ∉ rendering.sql.toList ∧ '\r' ∉ rendering.sql.toList := by
  have lack := selectText_namesLack "a\nb"
  obtain ⟨feeds, _, returns⟩ := (selectText "a\nb").render_lineBreaks ⟨.spanner, .spanner⟩ rfl lack rfl
  refine ⟨rfl, lack, _, rfl, rfl, feeds, fun mem => ?_⟩
  obtain ⟨node, within, text, own, inside⟩ := returns mem
  obtain rfl := (selectText_within within).2 text own
  exact absurd inside (by decide)

/-- A carriage return in a literal is written as it is. -/
theorem selectText_broken :
    Config.spanner.literalEscape = .backslash ∧
      (∀ c ∈ lineBreaks, (selectText "a\rb").NamesLack .spanner c) ∧
      ∃ rendering, (selectText "a\rb").render ⟨.spanner, .spanner⟩ = .ok rendering ∧
        rendering.sql = "select 'a\rb'" ∧ ∃ c ∈ lineBreaks, c ∈ rendering.sql.toList := by
  refine ⟨rfl, selectText_namesLack _, _, rfl, rfl, '\r', by decide, ?_⟩
  show '\r' ∈ "select 'a\rb'".toList
  decide

end Statement

end PortableSql
