import Mathlib.Data.List.Forall2
import Mathlib.Data.List.Nodup
import PortableSql.Form.Config
import PortableSql.Form.Decode
import PortableSql.Form.TemporaryTable

/-! How a form may be loosened without a change in what it says.

A form is loosened by leaving out fields that hold what they have when they are missing, and by
adding fields of unknown names, in any record at any depth. What the records and alternatives of the
forms are is given here as data, apart from the readers. That a reader answers the same for every
loosening of a form follows from the same of the parts, by one lemma for each way a form is built.
-/

set_option autoImplicit false

namespace PortableSql

open Json

namespace Json

theorem depth_le_fieldDepth {fields : Record} {name : String} {value : Json}
    (mem : (name, value) ∈ fields) : value.depth ≤ fieldDepth fields := by
  induction fields with
  | nil => cases mem
  | cons first fields ih =>
    obtain ⟨other, held⟩ := first
    rw [fieldDepth]
    rcases List.mem_cons.mp mem with same | mem
    · rw [(Prod.mk.inj same).2]
      exact Nat.le_max_left _ _
    · exact Nat.le_trans (ih mem) (Nat.le_max_right _ _)

namespace Record

variable {record : Record} {name : String}

theorem value?_of_mem {value : Json} (distinct : (record.map Prod.fst).Nodup)
    (mem : (name, value) ∈ record) : record.value? name = some value := by
  induction record with
  | nil => cases mem
  | cons first record ih =>
    obtain ⟨fresh, distinct⟩ := List.nodup_cons.mp distinct
    rw [value?, List.find?_cons]
    rcases List.mem_cons.mp mem with same | mem
    · rw [← same, beq_self_eq_true]
      rfl
    · have other : (first.1 == name) = false :=
        beq_false_of_ne fun same => fresh (same ▸ List.mem_map_of_mem mem)
      rw [other]
      exact ih distinct mem

theorem value?_of_not_mem (absent : name ∉ record.map Prod.fst) : record.value? name = none := by
  have unequal : record.find? (fun field => field.1 == name) = none :=
    List.find?_eq_none.mpr fun field mem same =>
      absent (eq_of_beq same ▸ List.mem_map_of_mem mem)
  rw [value?, unequal]
  rfl

/-- An optional field is one whose default is null, where null stands for no value. -/
theorem optional_eq {α : Type} (read : Json → Option α) :
    record.optional name read = record.withDefault name none (orNull? read) := by
  rw [optional, withDefault]
  cases record.value? name with
  | none => rfl
  | some value => cases value <;> rfl

end Record

end Json

namespace Form

/-- The records and the choices among alternatives that forms are built of. -/
inductive Kind where
  | statement
  | insert
  | insertSource
  | conflict
  | conflictAction
  | update
  | delete
  | assignment
  | query
  | head
  | selection
  | sortItem
  | lock
  | tableGroup
  | join
  | table
  | namedTable
  | derivedTable
  | derivedSource
  | predicate
  | comparison
  | inList
  | inSubquery
  | inArray
  | like
  | nullness
  | between
  | existence
  | junction
  | expr
  | column
  | parameter
  | arithmetic
  | call
  | window
  | summarization
  | temporaryTable
  | qualifiedName
  | temporaryColumn
  | config
  | temporaryTables
  deriving DecidableEq

/-- What stands at a place in a form. -/
inductive Place where
  -- A number, a text, a name, or a map of texts, none of which has parts to leave out.
  | leaf
  | node (kind : Kind)
  | optional (place : Place)
  | list (place : Place)
  deriving DecidableEq

structure Field where
  name : String
  place : Place
  -- The form of what the field is when it is missing, if it may be.
  default : Option Json

namespace Field

def required (name : String) (place : Place) : Field :=
  ⟨name, place, none⟩

def optional (name : String) (place : Place) : Field :=
  ⟨name, .optional place, some .null⟩

def listed (name : String) (place : Place) : Field :=
  ⟨name, .list place, some (.array [])⟩

def flag (name : String) (default : Bool) : Field :=
  ⟨name, .leaf, some (.bool default)⟩

def named (name default : String) : Field :=
  ⟨name, .leaf, some (.string default)⟩

end Field

/-- The fields of a record, in the order they are written; a choice has none. -/
def Kind.fields : Kind → List Field
  | .query => [.required "select" (.node .head), .listed "from" (.node .tableGroup),
      .optional "restriction" (.node .predicate), .listed "group_by" (.node .expr),
      .optional "having" (.node .predicate), .listed "order_by" (.node .sortItem),
      .optional "offset" (.node .expr), .optional "fetch" (.node .expr),
      .optional "lock" (.node .lock)]
  | .head => [.flag "distinct" false, .required "selections" (.list (.node .selection))]
  | .selection => [.required "expr" (.node .expr), .optional "alias" .leaf]
  | .sortItem => [.required "expr" (.node .expr), .flag "descending" false,
      .optional "nulls" .leaf]
  | .lock => [.required "mode" .leaf, .named "wait" "Wait", .named "follow_on" "Allow"]
  | .tableGroup => [.required "primary" (.node .table), .listed "joins" (.node .join)]
  | .join => [.required "kind" .leaf, .required "table" (.node .table),
      .optional "on" (.node .predicate)]
  | .namedTable => [.required "table" .leaf, .optional "alias" .leaf]
  | .derivedTable => [.required "source" (.node .derivedSource), .required "alias" .leaf,
      .listed "column_names" .leaf, .flag "lateral" false]
  | .comparison => [.required "lhs" (.node .expr), .required "op" .leaf,
      .required "rhs" (.node .expr)]
  | .inList => [.required "test" (.node .expr), .required "values" (.list (.node .expr)),
      .flag "negated" false]
  | .inSubquery => [.required "test" (.node .expr), .required "query" (.node .query),
      .flag "negated" false]
  | .inArray => [.required "test" (.node .expr), .required "array" (.node .expr)]
  | .like => [.required "expr" (.node .expr), .required "pattern" (.node .expr),
      .optional "escape" (.node .expr), .flag "case_sensitive" true, .flag "negated" false]
  | .nullness => [.required "expr" (.node .expr), .flag "negated" false]
  | .between => [.required "expr" (.node .expr), .required "low" (.node .expr),
      .required "high" (.node .expr), .flag "negated" false]
  | .existence => [.required "query" (.node .query), .flag "negated" false]
  | .junction => [.required "kind" .leaf, .required "predicates" (.list (.node .predicate))]
  | .column => [.optional "qualifier" .leaf, .required "name" .leaf, .named "sql_type" "other"]
  | .parameter => [.optional "name" .leaf, .named "sql_type" "other"]
  | .arithmetic => [.required "left" (.node .expr), .required "op" .leaf,
      .required "right" (.node .expr)]
  | .call => [.required "name" .leaf, .listed "args" (.node .expr), .named "return_type" "other"]
  | .window => [.required "function" (.node .call), .listed "partition_by" (.node .expr),
      .listed "order_by" (.node .sortItem)]
  | .summarization => [.required "kind" .leaf, .required "groupings" (.list (.node .expr))]
  | .insert => [.required "target" (.node .namedTable), .listed "columns" .leaf,
      .required "source" (.node .insertSource), .optional "conflict" (.node .conflict),
      .listed "returning" (.node .column)]
  | .conflict => [.required "action" (.node .conflictAction), .optional "constraint_name" .leaf,
      .listed "constraint_columns" .leaf, .optional "predicate" (.node .predicate)]
  | .update => [.required "target" (.node .namedTable),
      .required "assignments" (.list (.node .assignment)),
      .optional "restriction" (.node .predicate), .listed "returning" (.node .column)]
  | .delete => [.required "target" (.node .namedTable),
      .optional "restriction" (.node .predicate), .listed "returning" (.node .column)]
  | .assignment => [.required "column" (.node .column), .required "value" (.node .expr)]
  | .temporaryTable => [.required "name" (.node .qualifiedName),
      .required "columns" (.list (.node .temporaryColumn)), .optional "session_uid_column" .leaf]
  | .qualifiedName => [.optional "catalog" .leaf, .optional "schema" .leaf,
      .required "table" .leaf]
  | .temporaryColumn => [.required "name" .leaf, .named "sql_type" "other",
      .optional "type_definition" .leaf, .flag "nullable" true, .flag "primary_key" false]
  | .config => [.flag "follow_on_locking" Config.spanner.followOnLocking,
      .named "lowercase_function" Config.spanner.lowercaseFunction,
      .named "literal_escape" Config.spanner.literalEscape.name,
      .named "create_table_string" Config.spanner.createTable,
      .named "null_column_string" Config.spanner.nullMarker,
      ⟨"type_names", .leaf, some (textMap Config.spanner.typeNames)⟩,
      ⟨"temporary_table", .optional (.node .temporaryTables),
        some (.ofOption TemporaryTables.toJson Config.spanner.temporaryTables)⟩]
  | .temporaryTables => [⟨"column_annotations", .leaf, some (textMap .empty)⟩,
      .flag "supports_null_constraint" true, .flag "supports_primary_key" true]
  | .statement | .insertSource | .conflictAction | .table | .derivedSource | .predicate
  | .expr => []

/-- The alternatives of a choice that carry something; a record has none. -/
def Kind.alternatives : Kind → List (String × Place)
  | .statement => [("Select", .node .query), ("Insert", .node .insert), ("Update", .node .update),
      ("Delete", .node .delete)]
  | .insertSource => [("Values", .list (.list (.node .expr))), ("Query", .node .query)]
  | .conflictAction => [("DoUpdate", .list (.node .assignment))]
  | .table => [("Named", .node .namedTable), ("Derived", .node .derivedTable)]
  | .derivedSource => [("QueryPart", .node .query), ("Function", .node .call)]
  | .predicate => [("Comparison", .node .comparison), ("InList", .node .inList),
      ("InSubquery", .node .inSubquery), ("InArray", .node .inArray), ("Like", .node .like),
      ("Nullness", .node .nullness), ("Between", .node .between), ("Exists", .node .existence),
      ("Junction", .node .junction), ("Negated", .node .predicate)]
  | .expr => [("Literal", .leaf), ("Column", .node .column), ("Parameter", .node .parameter),
      ("Arithmetic", .node .arithmetic), ("Function", .node .call), ("Window", .node .window),
      ("Tuple", .list (.node .expr)), ("Subquery", .node .query), ("Any", .node .query),
      ("Every", .node .query), ("Summarization", .node .summarization)]
  | _ => []

def Kind.names (kind : Kind) : List String :=
  kind.fields.map Field.name

theorem Kind.names_nodup (kind : Kind) : kind.names.Nodup := by
  cases kind <;> decide

theorem Kind.alternatives_eq_nil {kind : Kind} (filled : kind.fields ≠ []) :
    kind.alternatives = [] := by
  cases kind <;> first | rfl | exact absurd rfl filled

theorem Kind.alternatives_nodup (kind : Kind) : (kind.alternatives.map Prod.fst).Nodup := by
  cases kind <;> decide

mutual

/-- A form at a place, and one that leaves out what need not be said and adds what is passed over.
The alternatives of a choice have their one field, and no other, in either. -/
inductive Loosens : Place → Json → Json → Prop
  | same (place : Place) (value : Json) : Loosens place value value
  | optional {place : Place} {value loose : Json} (content : Loosens place value loose) :
      Loosens (.optional place) value loose
  | list {place : Place} {items loose : List Json} (each : ItemsLoosen place items loose) :
      Loosens (.list place) (.array items) (.array loose)
  | alternative {kind : Kind} {name : String} {place : Place} {body loose : Json}
      (known : (name, place) ∈ kind.alternatives) (content : Loosens place body loose) :
      Loosens (.node kind) (.tagged name body) (.tagged name loose)
  | record {kind : Kind} {entries loose : Record} (known : kind.fields ≠ [])
      (each : FieldsLoosen kind entries loose) :
      Loosens (.node kind) (.object entries) (.object loose)

inductive ItemsLoosen : Place → List Json → List Json → Prop
  | nil {place : Place} : ItemsLoosen place [] []
  | cons {place : Place} {item loose : Json} {items others : List Json}
      (first : Loosens place item loose) (rest : ItemsLoosen place items others) :
      ItemsLoosen place (item :: items) (loose :: others)

inductive FieldsLoosen : Kind → Record → Record → Prop
  | nil {kind : Kind} : FieldsLoosen kind [] []
  | keep {kind : Kind} {field : Field} {value loose : Json} {entries others : Record}
      (known : field ∈ kind.fields) (content : Loosens field.place value loose)
      (rest : FieldsLoosen kind entries others) :
      FieldsLoosen kind ((field.name, value) :: entries) ((field.name, loose) :: others)
  | drop {kind : Kind} {field : Field} {value : Json} {entries others : Record}
      (known : field ∈ kind.fields) (default : field.default = some value)
      (rest : FieldsLoosen kind entries others) :
      FieldsLoosen kind ((field.name, value) :: entries) others
  | add {kind : Kind} {name : String} {entries others : Record} (unknown : name ∉ kind.names)
      (value : Json) (rest : FieldsLoosen kind entries others) :
      FieldsLoosen kind entries ((name, value) :: others)

end

/-- What has become of a field that was written: it is there, loosened, or has gone with its
default. -/
inductive Kept (others : Record) (field : Field) (value : Json) : Prop
  | present {loose : Json} (mem : (field.name, loose) ∈ others)
      (content : Loosens field.place value loose)
  | gone (absent : field.name ∉ others.map Prod.fst) (default : field.default = some value)

theorem Kept.cons {others : Record} {field : Field} {name : String} {value first : Json}
    (kept : Kept others field value) (other : field.name ≠ name) :
    Kept ((name, first) :: others) field value := by
  cases kept with
  | present mem content => exact .present (List.mem_cons_of_mem _ mem) content
  | gone absent default =>
    exact .gone (List.not_mem_cons_of_ne_of_not_mem other absent) default

theorem ItemsLoosen.refl (place : Place) (items : List Json) : ItemsLoosen place items items := by
  induction items with
  | nil => exact .nil
  | cons item items ih => exact .cons (.same place item) ih

namespace FieldsLoosen

variable {kind : Kind} {entries others : Record}

theorem refl (known : ∀ entry ∈ entries, entry.1 ∈ kind.names) :
    FieldsLoosen kind entries entries := by
  induction entries with
  | nil => exact .nil
  | cons entry entries ih =>
    obtain ⟨field, mem, named⟩ := List.mem_map.mp (known entry List.mem_cons_self)
    obtain ⟨name, value⟩ := entry
    subst named
    exact .keep mem (.same field.place value)
      (ih fun other mem => known other (List.mem_cons_of_mem _ mem))

/-- The known fields of a loosened record are some of those written, in their order. -/
theorem sublist {kind : Kind} {entries others : Record} : FieldsLoosen kind entries others →
    List.Sublist ((others.filter fun field => kind.names.contains field.1).map Prod.fst)
      (entries.map Prod.fst)
  | .nil => .refl _
  | .keep known _ rest => by
    have held : _ ∈ kind.names := List.mem_map_of_mem known
    simp only [List.filter_cons, List.contains_iff_mem.mpr held, if_true]
    exact rest.sublist.cons_cons _
  | .drop _ _ rest => rest.sublist.cons _
  | .add unknown _ rest => by
    simp only [List.filter_cons, mt List.contains_iff_mem.mp unknown, Bool.false_eq_true, if_false]
    exact rest.sublist

theorem mem_of_mem (loosens : FieldsLoosen kind entries others) {name : String}
    (known : name ∈ kind.names) (mem : name ∈ others.map Prod.fst) :
    name ∈ entries.map Prod.fst := by
  obtain ⟨entry, found, rfl⟩ := List.mem_map.mp mem
  have kept : entry ∈ others.filter fun field => kind.names.contains field.1 :=
    List.mem_filter.mpr ⟨found, List.contains_iff_mem.mpr known⟩
  exact loosens.sublist.subset (List.mem_map_of_mem kept)

theorem of_mem {kind : Kind} {entries others : Record} {entry : String × Json} :
    FieldsLoosen kind entries others → (entries.map Prod.fst).Nodup → entry ∈ entries →
    ∃ field ∈ kind.fields, field.name = entry.1 ∧ Kept others field entry.2
  | .nil, _, mem => absurd mem List.not_mem_nil
  | .keep known content rest, distinct, mem => by
    obtain ⟨fresh, distinct⟩ := List.nodup_cons.mp distinct
    rcases List.mem_cons.mp mem with rfl | mem
    · exact ⟨_, known, rfl, .present List.mem_cons_self content⟩
    · obtain ⟨field, fieldKnown, named, kept⟩ := rest.of_mem distinct mem
      refine ⟨field, fieldKnown, named, kept.cons fun same => fresh ?_⟩
      exact List.mem_map.mpr ⟨entry, mem, named.symm.trans same⟩
  | .drop known default rest, distinct, mem => by
    obtain ⟨fresh, distinct⟩ := List.nodup_cons.mp distinct
    rcases List.mem_cons.mp mem with rfl | mem
    · have absent := mt (rest.mem_of_mem (List.mem_map_of_mem known)) fresh
      exact ⟨_, known, rfl, .gone absent default⟩
    · exact rest.of_mem distinct mem
  | .add unknown _ rest, distinct, mem => by
    obtain ⟨field, known, named, kept⟩ := rest.of_mem distinct mem
    refine ⟨field, known, named, kept.cons fun same => unknown ?_⟩
    exact same ▸ List.mem_map_of_mem known

end FieldsLoosen

namespace Loosens

theorem eq_of_leaf {value loose : Json} (loosens : Loosens .leaf value loose) : loose = value := by
  cases loosens
  rfl

theorem of_optional {place : Place} {value loose : Json}
    (loosens : Loosens (.optional place) value loose) : Loosens place value loose := by
  cases loosens with
  | same => exact same place value
  | optional content => exact content

/-- Only null is loosened to null. -/
theorem eq_null {place : Place} {value loose : Json} (loosens : Loosens place value loose)
    (null : loose = .null) : value = .null := by
  induction place generalizing value with
  | leaf => rw [← eq_of_leaf loosens, null]
  | node kind => cases loosens <;> first | exact null | cases null
  | optional place ih => exact ih (of_optional loosens)
  | list place => cases loosens <;> first | exact null | cases null

/-- What has no parts stays as it is. -/
theorem eq_of_flat {place : Place} {value loose : Json} (loosens : Loosens place value loose)
    (flat : value.depth = 0) : loose = value := by
  induction place with
  | leaf => exact eq_of_leaf loosens
  | node kind => cases loosens <;> first | rfl | exact absurd flat (Nat.succ_ne_zero _)
  | optional place ih => exact ih (of_optional loosens)
  | list place => cases loosens <;> first | rfl | exact absurd flat (Nat.succ_ne_zero _)

theorem items {place : Place} {items : List Json} {loose : Json}
    (loosens : Loosens (.list place) (.array items) loose) :
    ∃ others, loose = .array others ∧ ItemsLoosen place items others := by
  cases loosens with
  | same => exact ⟨items, rfl, .refl place items⟩
  | list each => exact ⟨_, rfl, each⟩

theorem body {kind : Kind} {name : String} {place : Place} {body loose : Json}
    (known : (name, place) ∈ kind.alternatives)
    (loosens : Loosens (.node kind) (.tagged name body) loose) :
    ∃ other, loose = .tagged name other ∧ Loosens place body other := by
  cases loosens with
  | same => exact ⟨body, rfl, same place body⟩
  | alternative named content =>
    have same := List.inj_on_of_nodup_map kind.alternatives_nodup named known rfl
    exact ⟨_, rfl, (Prod.mk.inj same).2 ▸ content⟩
  | record filled =>
    rw [Kind.alternatives_eq_nil filled] at known
    cases known

theorem entries {kind : Kind} {entry : String × Json} {entries : Record} {loose : Json}
    (complete : (entry :: entries).map Prod.fst = kind.names)
    (loosens : Loosens (.node kind) (.object (entry :: entries)) loose) :
    ∃ others, loose = .object others ∧ FieldsLoosen kind (entry :: entries) others := by
  cases loosens with
  | same => exact ⟨_, rfl, .refl fun entry mem => complete ▸ List.mem_map_of_mem mem⟩
  | alternative known =>
    have filled : kind.fields ≠ [] := fun none => by
      rw [Kind.names, none] at complete
      cases complete
    rw [Kind.alternatives_eq_nil filled] at known
    cases known
  | record _ each => exact ⟨_, rfl, each⟩

end Loosens

/-- What is found in a loosened record for a field: what was written, loosened, or else nothing
where its default was written. -/
inductive Holds (record : Record) (depth : Nat) (name : String) (place : Place)
    (default : Option Json) (value : Json) : Prop
  | present {loose : Json} (found : record.value? name = some loose)
      (content : Loosens place value loose) (fits : loose.depth ≤ depth)
  | missing (absent : record.value? name = none) (same : default = some value)

/-- What is found for each of some fields, which were written in this order. -/
def HoldsAll (record : Record) (depth : Nat) : List Field → Record → Prop
  | field :: fields, entry :: entries =>
    Holds record depth field.name field.place field.default entry.2
      ∧ HoldsAll record depth fields entries
  | _, _ => True

theorem HoldsAll.of_zip {record : Record} {depth : Nat} {fields : List Field} {entries : Record}
    (each : ∀ field entry, (field, entry) ∈ fields.zip entries →
      Holds record depth field.name field.place field.default entry.2) :
    HoldsAll record depth fields entries := by
  induction fields generalizing entries with
  | nil => trivial
  | cons field fields ih =>
    cases entries with
    | nil => trivial
    | cons entry entries =>
      exact ⟨each field entry List.mem_cons_self,
        ih fun other entry mem => each other entry (List.mem_cons_of_mem _ mem)⟩

theorem FieldsLoosen.record? {kind : Kind} {entries others : Record} {depth : Nat}
    (loosens : FieldsLoosen kind entries others) (complete : entries.map Prod.fst = kind.names)
    (fits : fieldDepth others ≤ depth) :
    ∃ record, (Json.object others).record? kind.names = some record ∧
      HoldsAll record depth kind.fields entries := by
  have written : (entries.map Prod.fst).Nodup := complete ▸ kind.names_nodup
  have distinct := loosens.sublist.nodup written
  have aligned : List.Forall₂ (fun field entry => field.name = entry.1) kind.fields entries :=
    List.forall₂_map_left_iff.mp <| List.forall₂_map_right_iff.mp <|
      List.forall₂_eq_eq_eq ▸ complete.symm
  refine ⟨others.filter fun field => kind.names.contains field.1, if_pos distinct, ?_⟩
  refine .of_zip fun field entry mem => ?_
  have named := (List.forall₂_iff_zip.mp aligned).2 mem
  obtain ⟨known, mem⟩ := List.of_mem_zip mem
  obtain ⟨other, otherKnown, same, kept⟩ := loosens.of_mem written mem
  obtain rfl : other = field :=
    List.inj_on_of_nodup_map kind.names_nodup otherKnown known (same.trans named.symm)
  have listed : kind.names.contains other.name = true :=
    List.contains_iff_mem.mpr (List.mem_map_of_mem known)
  cases kept with
  | present found content =>
    have kept : (other.name, _) ∈ others.filter fun field => kind.names.contains field.1 :=
      List.mem_filter.mpr ⟨found, listed⟩
    exact .present (Record.value?_of_mem distinct kept) content
      (Nat.le_trans (depth_le_fieldDepth found) fits)
  | gone absent default =>
    exact .missing (Record.value?_of_not_mem fun mem =>
      absent ((List.filter_sublist.map _).subset mem)) default

/-- Every loosening of a value reads as what the value is the form of, as long as no more brackets
are open in it than may be. -/
def Reads {α : Type} (place : Place) (read : Nat → Json → Option α) (value : Json) (meant : α) :
    Prop :=
  ∀ loose depth, Loosens place value loose → loose.depth ≤ depth → read depth loose = some meant

variable {α β : Type} {place : Place} {read : Nat → Json → Option α} {value : Json} {meant : α}

namespace Reads

theorem leaf (reads : ∀ depth, value.depth ≤ depth → read depth value = some meant) :
    Reads .leaf read value meant := by
  intro loose depth loosens fits
  rw [loosens.eq_of_leaf] at fits ⊢
  exact reads depth fits

theorem self (reads : Reads place read value meant) : read value.depth value = some meant :=
  reads value value.depth (.same place value) (Nat.le_refl _)

/-- A whole value reads as what it is the form of, and so does every loosening of it. -/
theorem whole (reads : Reads place read value meant) :
    Form.whole read value = some meant ∧
      ∀ loose, Loosens place value loose → Form.whole read loose = some meant :=
  ⟨reads.self, fun loose loosens => reads loose _ loosens (Nat.le_refl _)⟩

theorem map (f : α → β) (reads : Reads place read value meant) :
    Reads place (fun depth value => (read depth value).map f) value (f meant) := by
  intro loose depth loosens fits
  exact congrArg (Option.map f) (reads loose depth loosens fits)

theorem null : Reads (.optional place) (fun depth => orNull? (read depth)) .null none := by
  intro loose depth loosens _
  rw [loosens.eq_of_flat rfl]
  rfl

theorem present (filled : value ≠ .null) (reads : Reads place read value meant) :
    Reads (.optional place) (fun depth => orNull? (read depth)) value (some meant) := by
  intro loose depth loosens fits
  have content := loosens.of_optional
  have answer := reads loose depth content fits
  have present : loose ≠ .null := fun null => filled (content.eq_null null)
  cases loose <;> first | exact absurd rfl present | exact congrArg (Option.map some) answer

theorem nil {readAll : Nat → Json → Option (List α)}
    (opens : ∀ depth, readAll (depth + 1) (.array []) = some []) :
    Reads (.list place) readAll (.array []) [] := by
  intro loose depth loosens fits
  obtain ⟨others, rfl, items⟩ := loosens.items
  cases items
  cases depth with
  | zero => exact absurd fits (Nat.not_succ_le_zero _)
  | succ depth => exact opens depth

theorem cons {values : List Json} {all : List α} {readAll : Nat → Json → Option (List α)}
    (opens : ∀ depth value, readAll (depth + 1) value = value.list? (read depth))
    (first : Reads place read value meant)
    (rest : Reads (.list place) readAll (.array values) all) :
    Reads (.list place) readAll (.array (value :: values)) (meant :: all) := by
  intro loose depth loosens fits
  obtain ⟨others, rfl, items⟩ := loosens.items
  cases items with
  | cons content others =>
    cases depth with
    | zero => exact absurd fits (Nat.not_succ_le_zero _)
    | succ depth =>
      have deep := Nat.max_le.mp (Nat.le_of_succ_le_succ fits)
      have head := first _ depth content deep.1
      have tail := rest _ (depth + 1) (.list others) (Nat.succ_le_succ deep.2)
      rw [opens, list?] at tail ⊢
      rw [List.mapM_cons, head, tail]
      rfl

theorem ofList {encode : α → Json} {readAll : Nat → Json → Option (List α)}
    (opens : ∀ depth value, readAll (depth + 1) value = value.list? (read depth))
    (each : ∀ meant, Reads place read (encode meant) meant) (all : List α) :
    Reads (.list place) readAll (Json.ofList encode all) all := by
  induction all with
  | nil => exact .nil fun depth => opens depth _
  | cons meant all ih => exact .cons opens (each meant) ih

theorem ofOption {encode : α → Json} (filled : ∀ meant, encode meant ≠ .null)
    (each : ∀ meant, Reads place read (encode meant) meant) (value : Option α) :
    Reads (.optional place) (fun depth => orNull? (read depth)) (Json.ofOption encode value)
      value := by
  cases value with
  | none => exact .null
  | some meant => exact .present (filled meant) (each meant)

theorem alternative {kind : Kind} {name : String} {readBody : Nat → Json → Option α}
    (known : (name, place) ∈ kind.alternatives)
    (opens : ∀ depth body, read (depth + 1) (.tagged name body) = readBody depth body)
    (reads : Reads place readBody value meant) :
    Reads (.node kind) read (.tagged name value) meant := by
  intro loose depth loosens fits
  obtain ⟨body, rfl, content⟩ := loosens.body known
  cases depth with
  | zero => exact absurd fits (Nat.not_succ_le_zero _)
  | succ depth =>
    rw [opens]
    have inner : body.depth ≤ depth :=
      Nat.le_trans (Nat.le_max_left _ _) (Nat.le_of_succ_le_succ fits)
    exact reads body depth content inner

theorem record {kind : Kind} {entry : String × Json} {entries : Record}
    (complete : (entry :: entries).map Prod.fst = kind.names)
    (reads : ∀ depth value record, value.record? kind.names = some record →
      HoldsAll record depth kind.fields (entry :: entries) →
      read (depth + 1) value = some meant) :
    Reads (.node kind) read (.object (entry :: entries)) meant := by
  intro loose depth loosens fits
  obtain ⟨others, rfl, fields⟩ := loosens.entries complete
  cases depth with
  | zero => exact absurd fits (Nat.not_succ_le_zero _)
  | succ depth =>
    obtain ⟨record, opened, held⟩ := fields.record? complete (Nat.le_of_succ_le_succ fits)
    exact reads depth _ record opened held

end Reads

namespace Holds

variable {record : Record} {depth : Nat} {name : String}

theorem required (held : Holds record depth name place none value)
    (reads : Reads place read value meant) :
    record.required name (read depth) = some meant := by
  cases held with
  | present found content fits =>
    rw [Record.required, found]
    exact reads _ depth content fits
  | missing _ same => cases same

theorem withDefault {form : Json} {missing : α}
    (held : Holds record depth name place (some form) value)
    (reads : Reads place read value meant) (readsMissing : Reads place read form missing) :
    record.withDefault name missing (read depth) = some meant := by
  cases held with
  | present found content fits =>
    rw [Record.withDefault, found]
    exact reads _ depth content fits
  | missing absent same =>
    cases same
    rw [Record.withDefault, absent]
    exact readsMissing.self.symm.trans reads.self

theorem listed {readAll : Nat → Json → Option (List α)} {all : List α}
    (held : Holds record depth name (.list place) (some (.array [])) value)
    (opens : ∀ depth, readAll (depth + 1) (.array []) = some [])
    (reads : Reads (.list place) readAll value all) :
    record.withDefault name [] (readAll depth) = some all :=
  held.withDefault reads (.nil opens)

theorem optional {meant : Option α}
    (held : Holds record depth name (.optional place) (some .null) value)
    (reads : Reads (.optional place) (fun depth => orNull? (read depth)) value meant) :
    record.optional name (read depth) = some meant := by
  rw [Record.optional_eq]
  exact held.withDefault reads .null

end Holds

end Form

end PortableSql
