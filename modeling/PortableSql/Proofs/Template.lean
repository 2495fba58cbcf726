import PortableSql.Proofs.Added
import PortableSql.Proofs.ComposedNode
import PortableSql.Proofs.LiteralScan
import PortableSql.Proofs.NumeralText

/-! The text of a statement as a template for the contents of its string literals.

A template is a list of fixed texts and of slots for contents. A fragment with slots (`OpenFragment`)
gives a fragment for each choice of contents, and its text is a template filled in. If no fixed text
has quotes of its own making, a scanner takes the text apart at the slots (`Template.Reads`). Both are
kept when families are put together (`Opens.composes`).
-/

set_option autoImplicit false

namespace PortableSql

/-- Numbers, dates and times are written in a literal as they are. -/
theorem Numeral.ordinary {digits : List Char} (numeral : Numeral digits) :
    (String.ofList digits).toList.all LiteralEscape.isOrdinary = true := by
  rw [String.toList_ofList, List.all_eq_true]
  intro c mem
  have apart (d : Char) (other : isNumeral d = false) : c ≠ d := fun same => numeral.not_mem other (same ▸ mem)
  simp [LiteralEscape.isOrdinary, apart '\'' rfl, apart '\\' rfl, apart '\n' rfl]

inductive Segment where
  | fixed (words : String)
  -- A string literal, by its path and the content it has.
  | slot (path : Path) (own : String)
  deriving DecidableEq, Repr

abbrev Template := List Segment

def Segment.text (config : Config) (contents : Contents) : Segment → String
  | .fixed words => words
  | .slot path own => config.quote (contents path own)

/-- What a scanner is to find of a segment: a slot is one literal. -/
def Segment.pieces (style : LiteralEscape) (contents : Contents) : Segment → List ScanPiece
  | .fixed words => style.scan words.toList
  | .slot path own => [.literal (contents path own).toList]

/-- A slot for a literal below a branch. -/
def Segment.below (branch : Nat) : Segment → Segment
  | .fixed words => .fixed words
  | .slot path own => .slot (branch :: path) own

/-- A slot filled with the content that was there. -/
def Segment.settle (config : Config) : Segment → Segment
  | .fixed words => .fixed words
  | .slot _ own => .fixed (config.quote own)

namespace Template

variable (config : Config)

def text (contents : Contents) (template : Template) : String :=
  String.join (template.map (Segment.text config contents))

def pieces (contents : Contents) (template : Template) : List ScanPiece :=
  template.flatMap (Segment.pieces config.literalEscape contents)

/-- Whether no slot is followed directly by a quote, in a text that goes on with `rest`. -/
def Spaced (contents : Contents) (rest : List Char) : Template → Prop
  | [] => True
  | .fixed _ :: template => Spaced contents rest template
  | .slot _ _ :: template =>
    ((text config contents template).toList ++ rest).head? ≠ some '\'' ∧ Spaced contents rest template

/-- Whether a scanner finds the slots of a template, each as one literal, whatever they hold and
whatever follows the text. The flags say what a text may stand after and end with, as in
`LiteralEscape.Splits`. -/
def Reads (before : Bool) (template : Template) (after : Bool) : Prop :=
  ∀ (contents : Contents) (rest : List Char), (after = true → rest.head? ≠ some '\'') →
    (before = true → ((text config contents template).toList ++ rest).head? ≠ some '\'') ∧
    config.literalEscape.scan ((text config contents template).toList ++ rest) =
      pieces config contents template ++ config.literalEscape.scan rest ∧
    Spaced config contents rest template

theorem text_append (contents : Contents) (first second : Template) :
    text config contents (first ++ second) = text config contents first ++ text config contents second := by
  rw [text, List.map_append, String.join_append]
  rfl

theorem text_cons (contents : Contents) (segment : Segment) (template : Template) :
    text config contents (segment :: template) = segment.text config contents ++ text config contents template :=
  String.join_cons

theorem pieces_append (contents : Contents) (first second : Template) :
    pieces config contents (first ++ second) = pieces config contents first ++ pieces config contents second :=
  List.flatMap_append

theorem spaced_append (contents : Contents) (rest : List Char) (first second : Template) :
    Spaced config contents rest (first ++ second) ↔
      Spaced config contents ((text config contents second).toList ++ rest) first ∧
        Spaced config contents rest second := by
  induction first with
  | nil => exact (true_and _).symm ▸ Iff.rfl
  | cons segment first ih =>
    cases segment with
    | fixed words => exact ih
    | slot path own =>
      simp only [List.cons_append, Spaced, ih, text_append, String.toList_append, List.append_assoc, and_assoc]

namespace Reads

variable {config} {before between after : Bool} {first second template : Template}

theorem append (left : Reads config before first between) (right : Reads config between second after) :
    Reads config before (first ++ second) after := by
  intro contents rest apart
  obtain ⟨next, tail, spaced⟩ := right contents rest apart
  obtain ⟨opening, whole, spaced'⟩ := left contents _ next
  rw [text_append, String.toList_append, List.append_assoc, whole, tail, pieces_append, List.append_assoc,
    spaced_append]
  exact ⟨opening, rfl, spaced', spaced⟩

theorem weaken {before' after' : Bool} (reads : Reads config before template after) (le : before' ≤ before)
    (ge : after ≤ after') : Reads config before' template after' := by
  intro contents rest apart
  obtain ⟨opening, whole⟩ := reads contents rest fun flag => apart (ge flag)
  exact ⟨fun flag => opening (le flag), whole⟩

theorem nil (edge : Bool) : Reads config edge [] edge :=
  fun _ _ apart => ⟨apart, rfl, trivial⟩

theorem fixed {words : String} (splits : config.literalEscape.Splits before words.toList after) :
    Reads config before [.fixed words] after := by
  intro contents rest apart
  have own : text config contents [.fixed words] = words := by
    rw [text_cons]
    exact String.append_empty
  have alone : pieces config contents [.fixed words] = config.literalEscape.scan words.toList :=
    List.append_nil _
  rw [own, alone]
  exact ⟨(splits rest apart).1, (splits rest apart).2, trivial⟩

theorem slot (path : Path) (own : String) : Reads config false [.slot path own] true := by
  intro contents rest apart
  have quoted : text config contents [.slot path own] = config.quote (contents path own) := by
    rw [text_cons]
    exact String.append_empty
  rw [quoted]
  exact ⟨nofun, config.literalEscape.scan_quote _ (apart rfl), apart rfl, trivial⟩

/-- Segments changed one by one, so that the text is that of the old ones for other contents. -/
theorem map {change : Segment → Segment} (pull : Contents → Contents)
    (kept : ∀ words, change (.fixed words) = .fixed words)
    (filled : ∀ contents segment, (change segment).text config contents = segment.text config (pull contents))
    (found : ∀ contents segment, (change segment).pieces config.literalEscape contents =
      segment.pieces config.literalEscape (pull contents))
    (reads : Reads config before template after) : Reads config before (template.map change) after := by
  intro contents rest apart
  have same (template : Template) :
      text config contents (template.map change) = text config (pull contents) template := by
    simp only [text, List.map_map, Function.comp_def, filled]
  have pieces : pieces config contents (template.map change) = pieces config (pull contents) template := by
    simp only [pieces, List.flatMap_map, found]
  have spaced (template : Template) :
      Spaced config (pull contents) rest template → Spaced config contents rest (template.map change) := by
    intro spaced
    induction template with
    | nil => trivial
    | cons segment template ih =>
      cases segment with
      | fixed words =>
        rw [List.map_cons, kept]
        exact ih spaced
      | slot path own =>
        obtain ⟨next, others⟩ := spaced
        cases changed : change (.slot path own) with
        | fixed words =>
          rw [List.map_cons, changed]
          exact ih others
        | slot path' own' =>
          rw [List.map_cons, changed]
          exact ⟨by rwa [same], ih others⟩
  obtain ⟨opening, whole, own⟩ := reads (pull contents) rest apart
  rw [same, pieces]
  exact ⟨opening, whole, spaced template own⟩

theorem below (branch : Nat) (reads : Reads config before template after) :
    Reads config before (template.map (Segment.below branch)) after :=
  reads.map (fun contents => contents.below branch) (fun _ => rfl)
    (fun _ segment => by cases segment <;> rfl) (fun _ segment => by cases segment <;> rfl)

theorem settle (reads : Reads config before template after) :
    Reads config before (template.map (Segment.settle config)) after := by
  refine reads.map (fun _ => .own) (fun _ => rfl) (fun _ segment => by cases segment <;> rfl) ?_
  intro _ segment
  cases segment with
  | fixed words => rfl
  | slot path own => exact config.literalEscape.scan_quote_alone own

end Reads

end Template

/-- A mark, or a slot in place of a string literal. -/
inductive OpenMark where
  | fixed (mark : Mark)
  | slot (path : Path) (own : String)

namespace OpenMark

def fill (contents : Contents) : OpenMark → Mark
  | .fixed mark => mark
  | .slot path own => .literal (contents path own)

def segment (config : Config) : OpenMark → Segment
  | .fixed mark => .fixed (mark.sql config)
  | .slot path own => .slot path own

def within (clause : Clause) : OpenMark → OpenMark
  | .fixed mark => .fixed (mark.within clause)
  | .slot path own => .slot path own

def below (branch : Nat) : OpenMark → OpenMark
  | .fixed mark => .fixed mark
  | .slot path own => .slot (branch :: path) own

/-- A mark whose slot has the content that was there. -/
def settle : OpenMark → OpenMark
  | .fixed mark => .fixed mark
  | .slot _ own => .fixed (.literal own)

end OpenMark

structure OpenFragment where
  marks : List OpenMark
  failure : Option Error

namespace OpenFragment

def fill (form : OpenFragment) : Family := fun contents =>
  ⟨form.marks.map (OpenMark.fill contents), form.failure⟩

def template (config : Config) (form : OpenFragment) : Template :=
  form.marks.map (OpenMark.segment config)

def append (first second : OpenFragment) : OpenFragment :=
  match first.failure with
  | some _ => first
  | none => ⟨first.marks ++ second.marks, second.failure⟩

/-- The same marks, each changed in a way that keeps it one segment. -/
def mapMarks (change : OpenMark → OpenMark) (form : OpenFragment) : OpenFragment :=
  ⟨form.marks.map change, form.failure⟩

theorem template_mapMarks {config : Config} {change : OpenMark → OpenMark} {changed : Segment → Segment}
    (same : ∀ mark, (change mark).segment config = changed (mark.segment config)) (form : OpenFragment) :
    (form.mapMarks change).template config = (form.template config).map changed := by
  simp only [template, mapMarks, List.map_map, Function.comp_def, same]

theorem fill_mapMarks {change : OpenMark → OpenMark} (wrap : Mark → Mark) (pull : Contents → Contents)
    (same : ∀ contents mark, (change mark).fill contents = wrap (mark.fill (pull contents)))
    (form : OpenFragment) :
    (form.mapMarks change).fill = fun contents =>
      ⟨(form.fill (pull contents)).marks.map wrap, (form.fill (pull contents)).failure⟩ := by
  funext contents
  simp only [fill, mapMarks, List.map_map, Function.comp_def, same]

theorem fill_append (first second : OpenFragment) :
    (first.append second).fill = fun contents => first.fill contents ++ second.fill contents := by
  obtain ⟨marks, failure⟩ := first
  cases failure with
  | some cause => rfl
  | none =>
    funext contents
    exact congrArg (Fragment.mk · second.failure) List.map_append

end OpenFragment

/-- Whether a family is a fragment with slots that a scanner finds, the latter if its names are plain. -/
def Opens (config : Config) (plain : Prop) (before : Bool) (family : Family) (after : Bool) : Prop :=
  ∃ form : OpenFragment, family = form.fill ∧
    (plain → form.failure = none → Template.Reads config before (form.template config) after)

namespace Opens

variable {config : Config} {plain : Prop} {before between after : Bool} {family first second : Family}

theorem text {words : String} (splits : plain → config.literalEscape.Splits before words.toList after) :
    Opens config plain before (fun _ => .text words) after :=
  ⟨⟨[.fixed (.text words)], none⟩, rfl, fun clean _ => .fixed (splits clean)⟩

/-- A mark that goes with the text without being part of it. -/
theorem note (edge : Bool) (mark : Mark) (silent : mark.sql config = "") :
    Opens config plain edge (fun _ => .mark mark) edge := by
  refine ⟨⟨[.fixed mark], none⟩, rfl, fun _ _ => .fixed ?_⟩
  rw [silent]
  exact .plain edge nofun

theorem append (left : Opens config plain before first between)
    (right : Opens config plain between second after) :
    Opens config plain before (fun contents => first contents ++ second contents) after := by
  obtain ⟨head, rfl, reads⟩ := left
  obtain ⟨tail, rfl, reads'⟩ := right
  refine ⟨head.append tail, (head.fill_append tail).symm, fun clean whole => ?_⟩
  obtain ⟨marks, failure⟩ := head
  cases failure with
  | some cause => contradiction
  | none =>
    have joined := (reads clean rfl).append (reads' clean whole)
    rwa [OpenFragment.template, OpenFragment.template, ← List.map_append] at joined

theorem weaken {before' after' : Bool} (piece : Opens config plain before family after)
    (le : before' ≤ before) (ge : after ≤ after') : Opens config plain before' family after' := by
  obtain ⟨form, rfl, reads⟩ := piece
  exact ⟨form, rfl, fun clean whole => (reads clean whole).weaken le ge⟩

theorem nil (edge : Bool) : Opens config plain edge (fun _ => .nil) edge :=
  ⟨⟨[], none⟩, rfl, fun _ _ => .nil edge⟩

theorem fail (cause : Error) : Opens config plain true (fun _ => .fail cause) false :=
  ⟨⟨[], some cause⟩, rfl, nofun⟩

theorem slot (own : String) : Opens config plain false (fun contents => .literal (contents [] own)) true :=
  ⟨⟨[.slot [] own], none⟩, rfl, fun _ _ => .slot [] own⟩

theorem literal (content : String) : Opens config plain false (fun _ => .literal content) true :=
  ⟨⟨[.fixed (.literal content)], none⟩, rfl, fun _ _ => .fixed (.quote content)⟩

theorem inClause (clause : Clause) (piece : Opens config plain before family after) :
    Opens config plain before (fun contents => .inClause clause (family contents)) after := by
  obtain ⟨form, rfl, reads⟩ := piece
  have segments : (form.mapMarks (OpenMark.within clause)).template config = (form.template config).map id :=
    OpenFragment.template_mapMarks (fun mark => by cases mark <;> simp [OpenMark.within, OpenMark.segment]) form
  refine ⟨form.mapMarks (OpenMark.within clause), Eq.symm ?_, fun clean whole => ?_⟩
  · exact OpenFragment.fill_mapMarks (Mark.within clause) id (fun _ mark => by cases mark <;> rfl) form
  · rw [segments, List.map_id]
    exact reads clean whole

theorem below (branch : Nat) (piece : Opens config plain before family after) :
    Opens config plain before (fun contents => family (contents.below branch)) after := by
  obtain ⟨form, rfl, reads⟩ := piece
  have segments : (form.mapMarks (OpenMark.below branch)).template config =
      (form.template config).map (Segment.below branch) :=
    OpenFragment.template_mapMarks (fun mark => by cases mark <;> rfl) form
  refine ⟨form.mapMarks (OpenMark.below branch), Eq.symm ?_, fun clean whole => ?_⟩
  · have filled : (form.mapMarks (OpenMark.below branch)).fill = _ :=
      OpenFragment.fill_mapMarks id (fun contents => contents.below branch)
        (fun _ mark => by cases mark <;> rfl) form
    simpa only [List.map_id] using filled
  · rw [segments]
    exact (reads clean whole).below branch

theorem own (piece : Opens config plain before family after) :
    Opens config plain before (fun _ => family .own) after := by
  obtain ⟨form, rfl, reads⟩ := piece
  have segments : (form.mapMarks OpenMark.settle).template config =
      (form.template config).map (Segment.settle config) :=
    OpenFragment.template_mapMarks (fun mark => by cases mark <;> rfl) form
  refine ⟨form.mapMarks OpenMark.settle, Eq.symm ?_, fun clean whole => ?_⟩
  · have filled : (form.mapMarks OpenMark.settle).fill = _ :=
      OpenFragment.fill_mapMarks id (fun _ => .own) (fun _ mark => by cases mark <;> rfl) form
    simpa only [List.map_id] using filled
  · rw [segments]
    exact (reads clean whole).settle

/-- A content without special characters, quoted after a word. -/
theorem quoted (opening word : String) {content : String} (opens : opening = word ++ "'")
    (start : '\'' ∉ word.toList) (inhabited : word.toList ≠ [])
    (ordinary : content.toList.all LiteralEscape.isOrdinary = true) :
    config.literalEscape.Splits true (opening ++ content ++ "'").toList true := by
  have shape : opening ++ content ++ "'" = word ++ config.literalEscape.quote content := by
    rw [opens, config.literalEscape.quote_plain ordinary, String.append_assoc, String.append_assoc,
      String.append_assoc]
  rw [shape, String.toList_append]
  exact (LiteralEscape.Splits.words start inhabited).append (.quote content)

/-- A value that is not a string has quotes only around a text of its own. -/
theorem value (double : plain → '\'' ∉ (config.typeName .double).toList) (value : Value)
    (other : ∀ text, value ≠ .string text) : Opens config plain true (fun _ => value.fragment config) true := by
  have unquoted {words : String} (unquoted : '\'' ∉ words.toList) :
      Opens config plain true (fun _ => .text words) true :=
    text fun _ => .plain true unquoted
  cases value with
  | string text => exact absurd rfl (other text)
  | null => exact unquoted (by decide)
  | bool value => exact unquoted (by cases value <;> decide)
  | int value => exact unquoted ((Numeral.toString _).not_mem rfl)
  | float value =>
    refine text fun clean => ?_
    rw [Value.floatText]
    split
    · rw [String.toList_ofList]
      exact .plain true ((Numeral.float _ value).not_mem rfl)
    · have cast {name : String} (ordinary : name.toList.all LiteralEscape.isOrdinary = true) :
          config.literalEscape.Splits true
            ("cast('" ++ name ++ "' as " ++ config.typeName .double ++ ")").toList true := by
        have shape : ("cast('" ++ name ++ "' as " ++ config.typeName .double ++ ")").toList =
            ("cast('" ++ name ++ "'").toList ++ (" as ".toList ++ (config.typeName .double ++ ")").toList) := by
          have middle : "' as " = "'" ++ " as " := by decide
          simp only [middle, String.toList_append, List.append_assoc]
        have tail : '\'' ∉ (config.typeName .double ++ ")").toList := by
          simpa using double clean
        rw [shape]
        have after : config.literalEscape.Splits true
            (" as ".toList ++ (config.typeName .double ++ ")").toList) false :=
          .append (.words (by decide) (by decide)) (.plain false tail)
        exact (quoted "cast('" "cast(" (by decide) (by decide) (by decide) ordinary).append
          (after.weaken (Bool.le_refl true) (Bool.false_le true))
      refine cast ?_
      split_ifs <;> decide
  | date value =>
    exact text fun _ =>
      quoted "date '" "date " (by decide) (by decide) (by decide) (Numeral.date value).ordinary
  | timestamp value =>
    exact text fun _ =>
      quoted "timestamp '" "timestamp " (by decide) (by decide) (by decide)
        (Numeral.timestamp rfl value).ordinary

theorem name {name : String} (edge : Bool) (unquoted : plain → '\'' ∉ name.toList) :
    Opens config plain edge (fun _ => .text name) edge :=
  text fun clean => .plain edge (unquoted clean)

theorem names {names : List String} (edge : Bool) (unquoted : ∀ name ∈ names, plain → '\'' ∉ name.toList) :
    Opens config plain edge (fun _ => .names names) edge :=
  text fun clean => .plain edge (not_mem_intercalate (by decide) fun name mem => unquoted name mem clean)

theorem placeholder (parameter : Parameter) :
    Opens config plain true (fun _ => .placeholder parameter) false := by
  refine ⟨⟨[.fixed (.placeholder parameter)], none⟩, rfl, fun _ _ => .fixed ?_⟩
  exact show config.literalEscape.Splits true "?".toList false from .words (by decide) (by decide)

/-- The constant that groups everything is two literals. -/
theorem bucket : Opens config plain false (fun _ => .text "'0' || '0'") true := by
  have zero : config.literalEscape.quote "0" = "'0'" := by
    rw [config.literalEscape.quote_plain (by decide)]
    decide
  have shape : "'0' || '0'".toList = (config.literalEscape.quote "0").toList ++
      (" || ".toList ++ (config.literalEscape.quote "0").toList) := by
    rw [zero]
    decide
  refine text fun _ => ?_
  rw [shape]
  exact LiteralEscape.Splits.append (.quote "0")
    (LiteralEscape.Splits.append (.words (by decide) (by decide)) (.quote "0"))

theorem offered (construct : Construct) (piece : Opens config plain before family after) :
    Opens config plain before (fun contents =>
      .mark (.offer construct none (Fragment.outcome (some (family contents)))) ++ family contents) after := by
  have kept := piece
  obtain ⟨form, rfl, _⟩ := kept
  exact (note before (.offer construct none (Fragment.outcome (some (form.fill .own)))) rfl).append piece

theorem operation {l r : Family} (op : ArithmeticOp) (left : Opens config plain false l true)
    (right : Opens config plain false r true) :
    Opens config plain true (fun contents => .parens (l contents ++ .text op.text ++ r contents)) false := by
  have sign (words : String) (unquoted : '\'' ∉ words.toList) (inhabited : words.toList ≠ []) :
      Opens config plain true (fun _ => .text words) false :=
    text fun _ => .words unquoted inhabited
  have between := (left.append (sign op.text (by cases op <;> decide) (by cases op <;> decide))).append right
  exact ((sign "(" (by decide) (by decide)).append between).append (sign ")" (by decide) (by decide))

/-- Fragments with slots are put together from the pieces of the renderer. -/
theorem composes (double : plain → '\'' ∉ (config.typeName .double).toList) :
    Composes config (fun name => plain → '\'' ∉ name.toList) (fun _ => True) (fun _ _ => True)
      (Opens config plain) where
  nil := nil
  append := append
  weaken := weaken
  word word := text fun _ =>
    .words (fun quote => absurd (List.all_eq_true.mp word.2 _ quote) (by decide))
      fun empty => word.1 (String.toList_inj.mp empty)
  empty edge := text fun _ => .plain edge List.not_mem_nil
  name := name
  names := names
  value := value double
  bucket := bucket
  literal _ := literal _
  slot _ := slot _
  backslashed _ := id
  operation op left right _ := operation op left right
  placeholder := placeholder
  table edge name := note edge _ rfl
  lock edge answer chosen := note edge _ rfl
  fail := fail
  inClause := inClause
  offered := offered
  standard construct piece := (note _ _ rfl).append piece
  below := below
  own := own

end Opens

end PortableSql
