import PortableSql.Proofs.ComposedNode
import PortableSql.Proofs.Outline
import PortableSql.Proofs.Visit

/-! Fragments nest: a fragment leads from one depth of parentheses to another.

A query has clause words, and everything else has them only in parentheses; so a fragment says whether clause
words may stand outside of all of its parentheses (`Nests`). What stands in parentheses counts from the depth
around it, and there clause words are free. The renderer's own texts are read as they are; what it did not write
has to be admitted.
-/

set_option autoImplicit false

namespace PortableSql

/-- The words for groupings of groupings. -/
def summaryWords : List String := ["rollup", "cube"]

/-- Whether a text without quotes leads from one depth to another, and has its clause words in parentheses unless
they are free. The words for groupings of groupings are not in it. -/
structure Leads (free : Bool) (before : Nat) (words : String) (after : Nat) : Prop where
  unquoted : '\'' ∉ words.toList
  reaches : ScanToken.depth? before (ScanToken.ofText words.toList) = some after
  hidden : free = true ∨ ScanToken.clauses before (ScanToken.ofText words.toList) = []
  plain : ∀ word ∈ summaryWords, .ofWord word ∉ ScanToken.ofText words.toList

instance (free : Bool) (before : Nat) (words : String) (after : Nat) : Decidable (Leads free before words after) :=
  decidable_of_iff
    ('\'' ∉ words.toList ∧ ScanToken.depth? before (ScanToken.ofText words.toList) = some after ∧
      (free = true ∨ ScanToken.clauses before (ScanToken.ofText words.toList) = []) ∧
      ∀ word ∈ summaryWords, .ofWord word ∉ ScanToken.ofText words.toList)
    ⟨fun ⟨unquoted, reaches, hidden, plain⟩ => ⟨unquoted, reaches, hidden, plain⟩,
      fun leads => ⟨leads.unquoted, leads.reaches, leads.hidden, leads.plain⟩⟩

/-- Whether a fragment leads from one depth of parentheses to another. Its clause words are in parentheses unless
they are free. -/
inductive Nests (target : Target) (Name : String → Prop) : Bool → Nat → Fragment → Nat → Prop
  | nil (free : Bool) (depth : Nat) : Nests target Name free depth .nil depth
  | words {free : Bool} {before after : Nat} {words : String} (leads : Leads free before words after) :
    Nests target Name free before (.text words) after
  -- The one text with a clause word that does not begin a clause.
  | distinctness (standard : target.dialect = .generic) {op : ComparisonOp} (special : op.isDistinctness = true) :
    Nests target Name false 0 (.text op.spacedText) 0
  | name {name : String} (admitted : Name name) : Nests target Name false 0 (.text name) 0
  | names {names : List String} (admitted : ∀ name ∈ names, Name name) : Nests target Name false 0 (.names names) 0
  | value (value : Value) (double : Name (target.config.typeName .double)) :
    Nests target Name false 0 (value.fragment target.config) 0
  | literal (content : String) : Nests target Name false 0 (.literal content) 0
  -- The constant that groups everything.
  | bucket : Nests target Name false 0 (.text "'0' || '0'") 0
  | placeholder (parameter : Parameter) : Nests target Name false 0 (.placeholder parameter) 0
  | table (name : String) : Nests target Name false 0 (.mark (.table name)) 0
  | lock {answer : Option LockStrategy} {chosen : LockStrategy}
    (left : target.dialect = .spanner → chosen = .none) : Nests target Name false 0 (.mark (.lock answer chosen)) 0
  | offer (free : Bool) (depth : Nat) (construct : Construct) (outcome : Outcome) :
    Nests target Name free depth (.mark (.offer construct none outcome)) depth
  | fail (free : Bool) (before : Nat) (cause : Error) (after : Nat) : Nests target Name free before (.fail cause) after
  | append {free : Bool} {before between after : Nat} {first second : Fragment}
    (left : Nests target Name free before first between) (right : Nests target Name free between second after) :
    Nests target Name free before (first ++ second) after
  | inClause {free : Bool} {before after : Nat} {fragment : Fragment} (clause : Clause)
    (nests : Nests target Name free before fragment after) :
    Nests target Name free before (.inClause clause fragment) after
  | freely {before after : Nat} {fragment : Fragment} (nests : Nests target Name false before fragment after) :
    Nests target Name true before fragment after
  -- Inside of parentheses clause words are free.
  | deeper {free : Bool} {before after : Nat} {fragment : Fragment}
    (nests : Nests target Name true before fragment after) :
    Nests target Name free (before + 1) fragment (after + 1)

namespace Nests

variable {target : Target} {Name : String → Prop} {free : Bool} {depth before between after : Nat}
  {fragment : Fragment}

/-- What has no clause words may stand where they are free. -/
theorem loosen (nests : Nests target Name false before fragment after) :
    Nests target Name free before fragment after := by
  cases free with
  | false => exact nests
  | true => exact nests.freely

theorem behind {words : String} (nests : Nests target Name free between fragment after)
    (leads : Leads free before words between) : Nests target Name free before (.text words ++ fragment) after :=
  (Nests.words leads).append nests

theorem ahead {words : String} (nests : Nests target Name free before fragment between)
    (leads : Leads free between words after) : Nests target Name free before (fragment ++ .text words) after :=
  nests.append (.words leads)

/-- In parentheses clause words are free. -/
theorem parens (nests : Nests target Name true 0 fragment 0) : Nests target Name free 0 (.parens fragment) 0 :=
  ((nests.deeper.behind (by decide)).ahead (by decide) : Nests target Name false 0 _ 0).loosen

theorem onlyIf (condition : Bool) (nests : condition = true → Nests target Name free depth fragment depth) :
    Nests target Name free depth (.onlyIf condition fragment) depth := by
  cases condition with
  | true => exact nests rfl
  | false => exact nil free depth

theorem ifSome {α : Type} {value : Option α} {render : α → Fragment}
    (nests : ∀ a ∈ value, Nests target Name free depth (render a) depth) :
    Nests target Name free depth (.ifSome value render) depth := by
  cases value with
  | none => exact nil free depth
  | some a => exact nests a rfl

theorem separated {separator : String} (leads : Leads free depth separator depth) {fragments : List Fragment}
    (nests : ∀ fragment ∈ fragments, Nests target Name free depth fragment depth) :
    Nests target Name free depth (.separated separator fragments) depth := by
  induction fragments with
  | nil => exact nil free depth
  | cons first rest ih =>
    obtain ⟨own, others⟩ := List.forall_mem_cons.mp nests
    cases rest with
    | nil => exact own
    | cons second rest => exact (own.ahead leads).append (ih others)

theorem offered (construct : Construct) {answer standard : Fragment}
    (nests : Nests target Name free before answer after) :
    Nests target Name free before (.offer construct (some answer) standard) after :=
  (Nests.offer free before construct _).append nests

theorem standard (construct : Construct) (nests : Nests target Name free before fragment after) :
    Nests target Name free before (.offer construct none fragment) after :=
  (Nests.offer free before construct _).append nests

/-- A list between commas. -/
theorem listed {fragments : List Fragment} (nests : ∀ fragment ∈ fragments, Nests target Name false 0 fragment 0) :
    Nests target Name free 0 (.separated "," fragments) 0 :=
  (separated (by decide) nests).loosen

/-- A clause that begins with a keyword and has a list, if there is one. -/
theorem clause {keyword : String} (leads : Leads true 0 keyword 0) (clause : Clause) {fragments : List Fragment}
    (nests : ∀ fragment ∈ fragments, Nests target Name false 0 fragment 0) :
    Nests target Name true 0
      (.onlyIf (!fragments.isEmpty) (.inClause clause (.text keyword ++ .separated "," fragments))) 0 :=
  onlyIf _ fun _ => ((listed nests).behind leads).inClause clause

end Nests

end PortableSql
