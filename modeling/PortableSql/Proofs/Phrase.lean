import PortableSql.Proofs.Accounting
import PortableSql.Proofs.ScanToken

/-! Phrases, of which Spanner's statements are made.

A phrase stands between two joints, which say where a word may begin. It is a text that the renderer writes of
its own (`Joint.Spells`), a name, a value, or phrases one after the other; beside it are the parameters and
tables that it mentions, in any order and any number. In the renderer's own texts there is no word of a
construct that Spanner lacks.
-/

set_option autoImplicit false

namespace PortableSql

namespace Spanner

/-- Words that Spanner's statements do without. -/
def unwritten : List String :=
  ["lateral", "ilike", "escape", "conflict", "constraint", "for", "nowait", "skip", "fetch", "rows"]

/-- Whether tokens do without these words, and no `distinct` stands before a `from`. -/
structure Clean (tokens : List ScanToken) : Prop where
  unwritten : ∀ word ∈ unwritten, .ofWord word ∉ tokens
  apart : tokens.IsChain fun first second => ¬ (first = .ofWord "distinct" ∧ second = .ofWord "from")

/-- Their letters: a check that reads them here does not take the words apart each time. -/
def unwrittenLetters : List (List Char) :=
  [['l', 'a', 't', 'e', 'r', 'a', 'l'], ['i', 'l', 'i', 'k', 'e'], ['e', 's', 'c', 'a', 'p', 'e'],
    ['c', 'o', 'n', 'f', 'l', 'i', 'c', 't'], ['c', 'o', 'n', 's', 't', 'r', 'a', 'i', 'n', 't'], ['f', 'o', 'r'],
    ['n', 'o', 'w', 'a', 'i', 't'], ['s', 'k', 'i', 'p'], ['f', 'e', 't', 'c', 'h'], ['r', 'o', 'w', 's']]

theorem map_unwritten : unwritten.map String.toList = unwrittenLetters := by decide

theorem forall_unwritten {tokens : List ScanToken} :
    (∀ word ∈ unwritten, .ofWord word ∉ tokens) ↔ ∀ letters ∈ unwrittenLetters, .word letters ∉ tokens := by
  rw [← map_unwritten, List.forall_mem_map]
  rfl

instance (tokens : List ScanToken) : Decidable (Clean tokens) :=
  decidable_of_iff
    ((∀ letters ∈ unwrittenLetters, .word letters ∉ tokens) ∧
      tokens.IsChain fun first second => ¬ (first = .ofWord "distinct" ∧ second = .ofWord "from"))
    ⟨fun ⟨unwritten, apart⟩ => ⟨forall_unwritten.mpr unwritten, apart⟩,
      fun clean => ⟨forall_unwritten.mp clean.unwritten, clean.apart⟩⟩

end Spanner

/-- What a place between two texts is like. -/
inductive Joint where
  -- A word may begin here.
  | loose
  -- A word or a literal may end here, so that none begins.
  | tight
  -- The word `distinct` may stand before it, so that something else than `from` begins here.
  | distinct
  deriving DecidableEq, Repr

namespace Joint

/-- Whether a text can begin at a joint, by its first character and its first token. -/
def begins (first : Option Char) (token : Option ScanToken) : Joint → Bool
  | .loose => true
  | .tight => first.all fun c => !ScanToken.isLetter c && c != '\''
  | .distinct => token.any (· != .ofWord "from")

/-- Whether a text can end at a joint, by its last character and its last token. -/
def ends (last : Option Char) (token : Option ScanToken) : Joint → Bool
  | .loose => last.all (!ScanToken.isLetter ·) && token != some (.ofWord "distinct")
  | .tight => token != some (.ofWord "distinct")
  | .distinct => last.all (!ScanToken.isLetter ·)

/-- Whether a text without quotes can stand between two joints. -/
structure Takes (before : Joint) (text : List Char) (after : Joint) : Prop where
  inhabited : text ≠ []
  unquoted : '\'' ∉ text
  clean : Spanner.Clean (ScanToken.ofText text)
  begins : before.begins text.head? (ScanToken.ofText text).head? = true
  ends : after.ends text.getLast? (ScanToken.ofText text).getLast? = true

instance (before : Joint) (text : List Char) (after : Joint) : Decidable (before.Takes text after) :=
  decidable_of_iff
    (text ≠ [] ∧ '\'' ∉ text ∧ Spanner.Clean (ScanToken.ofText text) ∧
      before.begins text.head? (ScanToken.ofText text).head? = true ∧
      after.ends text.getLast? (ScanToken.ofText text).getLast? = true)
    ⟨fun ⟨inhabited, unquoted, clean, begins, ends⟩ => ⟨inhabited, unquoted, clean, begins, ends⟩,
      fun takes => ⟨takes.inhabited, takes.unquoted, takes.clean, takes.begins, takes.ends⟩⟩

def Spells (before : Joint) (words : String) (after : Joint) : Prop :=
  before.Takes words.toList after

instance (before : Joint) (words : String) (after : Joint) : Decidable (before.Spells words after) :=
  inferInstanceAs (Decidable (before.Takes words.toList after))

theorem Spells.comma : Joint.tight.Spells "," .loose := by decide

end Joint

namespace Spanner

/-- Whether a fragment is a phrase between two joints, and what it mentions. A failure mentions anything. -/
inductive Phrase (config : Config) (Name : String → Prop) : Joint → Fragment → List Mark → Joint → Prop
  | nil (joint : Joint) : Phrase config Name joint .nil [] joint
  | words {before after : Joint} {words : String} (spells : before.Spells words after) :
    Phrase config Name before (.text words) [] after
  | name {name : String} (admitted : Name name) : Phrase config Name .distinct (.text name) [] .tight
  | names {names : List String} (admitted : ∀ name ∈ names, Name name) :
    Phrase config Name .loose (.names names) [] .tight
  | value (value : Value) (double : Name (config.typeName .double)) :
    Phrase config Name .distinct (value.fragment config) [] .tight
  | literal (content : String) : Phrase config Name .distinct (.literal content) [] .tight
  -- The constant that groups everything.
  | bucket : Phrase config Name .loose (.text "'0' || '0'") [] .tight
  | placeholder (parameter : Parameter) :
    Phrase config Name .distinct (.placeholder parameter) [.placeholder parameter] .tight
  | table {name : String} (admitted : Name name) : Phrase config Name .loose (.table name) [.table name] .tight
  | lock (joint : Joint) (answer : Option LockStrategy) (chosen : LockStrategy) :
    Phrase config Name joint (.mark (.lock answer chosen)) [] joint
  | offer (joint : Joint) (construct : Construct) (outcome : Outcome) :
    Phrase config Name joint (.mark (.offer construct none outcome)) [] joint
  | fail {before after : Joint} (cause : Error) (mentions : List Mark) :
    Phrase config Name before (.fail cause) mentions after
  | append {before between after : Joint} {first second : Fragment} {mentions mentions' : List Mark}
    (left : Phrase config Name before first mentions between)
    (right : Phrase config Name between second mentions' after) :
    Phrase config Name before (first ++ second) (mentions ++ mentions') after
  | inClause {before after : Joint} {fragment : Fragment} {mentions : List Mark} (clause : Clause)
    (phrase : Phrase config Name before fragment mentions after) :
    Phrase config Name before (.inClause clause fragment) mentions after
  -- What can begin at any joint can begin at one where a word may.
  | loosen {before after : Joint} {fragment : Fragment} {mentions : List Mark}
    (phrase : Phrase config Name before fragment mentions after) :
    Phrase config Name .loose fragment mentions after
  | tighten {before : Joint} {fragment : Fragment} {mentions : List Mark}
    (phrase : Phrase config Name before fragment mentions .loose) :
    Phrase config Name before fragment mentions .tight
  | congr {before after : Joint} {fragment : Fragment} {mentions mentions' : List Mark}
    (phrase : Phrase config Name before fragment mentions after)
    (same : ∀ mark, mark ∈ mentions ↔ mark ∈ mentions') :
    Phrase config Name before fragment mentions' after

namespace Phrase

variable {config : Config} {Name : String → Prop} {before between after joint : Joint}
  {fragment : Fragment} {mentions : List Mark}

theorem behind {words : String} (spells : before.Spells words between)
    (phrase : Phrase config Name between fragment mentions after) :
    Phrase config Name before (.text words ++ fragment) mentions after :=
  (Phrase.words spells).append phrase

theorem ahead {words : String} (phrase : Phrase config Name before fragment mentions between)
    (spells : between.Spells words after) :
    Phrase config Name before (fragment ++ .text words) mentions after :=
  (phrase.append (.words spells)).congr (by simp)

/-- Parentheses can stand anywhere. -/
theorem parens (joint : Joint) (phrase : Phrase config Name .loose fragment mentions .tight) :
    Phrase config Name joint (.parens fragment) mentions .tight :=
  (phrase.behind (by cases joint <;> decide)).ahead (by decide)

theorem onlyIf (condition : Bool)
    (phrase : condition = true → Phrase config Name joint fragment mentions joint)
    (otherwise : condition = false → mentions = []) :
    Phrase config Name joint (.onlyIf condition fragment) mentions joint := by
  cases condition with
  | true => exact phrase rfl
  | false => exact otherwise rfl ▸ nil joint

theorem silentIf (condition : Bool) (phrase : Phrase config Name joint fragment [] joint) :
    Phrase config Name joint (.onlyIf condition fragment) [] joint :=
  onlyIf condition (fun _ => phrase) fun _ => rfl

/-- Words that may be denied. -/
theorem denied (negated : Bool) {words : String} (spells : Joint.loose.Spells words after) :
    Phrase config Name .loose (.onlyIf negated (.text "not ") ++ .text words) [] after :=
  (silentIf negated (.words (by decide))).ahead spells

theorem offered (construct : Construct) {answer standard : Fragment}
    (phrase : Phrase config Name before answer mentions after) :
    Phrase config Name before (.offer construct (some answer) standard) mentions after :=
  (Phrase.offer before construct _).append phrase

theorem standard (construct : Construct) (phrase : Phrase config Name before fragment mentions after) :
    Phrase config Name before (.offer construct none fragment) mentions after :=
  (Phrase.offer before construct _).append phrase

section

variable {α : Type} {render : α → Fragment} {of : α → List Mark}

/-- Something that is written around a fragment, if the fragment is there. -/
theorem perhaps {value : Option α} {around : Fragment → Fragment}
    (phrase : ∀ a ∈ value, Phrase config Name before (render a) (of a) after)
    (kept : ∀ fragment mentions, Phrase config Name before fragment mentions after →
      Phrase config Name joint (around fragment) mentions joint) :
    Phrase config Name joint (.ifSome (value.map render) around) (value.toList.flatMap of) joint := by
  cases value with
  | none => exact nil joint
  | some a => exact (kept _ _ (phrase a rfl)).congr (by simp)

theorem separated {separator : String} (spells : Joint.tight.Spells separator .loose) {elements : List α}
    (phrase : ∀ a ∈ elements, Phrase config Name .loose (render a) (of a) .tight) :
    Phrase config Name .loose (.separated separator (elements.map render)) (elements.flatMap of) .tight := by
  induction elements with
  | nil => exact (nil .loose).tighten
  | cons a rest ih =>
    obtain ⟨own, others⟩ := List.forall_mem_cons.mp phrase
    cases rest with
    | nil => exact own.congr (by simp)
    | cons b rest => exact (own.ahead spells).append (ih others)

/-- A list with elements, at a joint at which its first one can stand. -/
theorem series {separator : String} (spells : Joint.tight.Spells separator .loose) {elements : List α}
    (inhabited : elements ≠ []) (phrase : ∀ a ∈ elements, Phrase config Name before (render a) (of a) .tight) :
    Phrase config Name before (.separated separator (elements.map render)) (elements.flatMap of) .tight := by
  cases elements with
  | nil => contradiction
  | cons a rest =>
    obtain ⟨own, others⟩ := List.forall_mem_cons.mp phrase
    cases rest with
    | nil => exact own.congr (by simp)
    | cons b rest => exact (own.ahead spells).append (separated spells fun c mem => (others c mem).loosen)

theorem unlessEmpty {elements : List α} (phrase : Phrase config Name joint fragment (elements.flatMap of) joint) :
    Phrase config Name joint (.onlyIf (!(elements.map render).isEmpty) fragment) (elements.flatMap of) joint := by
  refine onlyIf _ (fun _ => phrase) fun empty => ?_
  cases elements with
  | nil => rfl
  | cons => contradiction

/-- A list that is only written if it has elements. -/
theorem listed {clause : Clause} {keyword : String} (spells : Joint.tight.Spells keyword .loose)
    {elements : List α} (phrase : ∀ a ∈ elements, Phrase config Name .loose (render a) (of a) .tight) :
    Phrase config Name .tight (.onlyIf (!(elements.map render).isEmpty)
      (.inClause clause (.text keyword ++ .separated "," (elements.map render)))) (elements.flatMap of) .tight :=
  unlessEmpty (((separated .comma phrase).behind spells).inClause clause)

end

end Phrase

end Spanner

end PortableSql
