import PortableSql.Proofs.Family
import PortableSql.Proofs.Outline
import PortableSql.TemporaryTable

/-! The statement that creates a table, read back.

A text in parentheses goes to the one that closes the first, and is made of items with commas between them that stand
outside of all further parentheses (`Text.enclosed?`, `Text.items`). Types may have both in them. The statement for a
temporary table reads as one definition for each column, and what follows the closing parenthesis as the primary key
(`TemporaryTable.createText_reads`).
-/

set_option autoImplicit false

namespace PortableSql

namespace Text

/-! ### Parentheses -/

/-- The depth of parentheses behind a character; no parenthesis closes that is not open. -/
def nest? (depth : Nat) (c : Char) : Option Nat :=
  (ScanToken.sign c).step? depth

/-- The depth of parentheses behind a text. -/
def depth? (depth : Nat) (text : List Char) : Option Nat :=
  text.foldlM nest? depth

/-- The characters of a text that stand outside of all parentheses, and the parentheses that open there. -/
def outer (depth : Nat) : List Char → List Char
  | [] => []
  | c :: rest => (if depth = 0 then [c] else []) ++ outer ((nest? depth c).getD 0) rest

/-- Whether the parentheses of a text are balanced and no comma stands outside of them. -/
def Whole (text : String) : Prop :=
  depth? 0 text.toList = some 0 ∧ ',' ∉ outer 0 text.toList

instance (text : String) : Decidable (Whole text) :=
  inferInstanceAs (Decidable (_ ∧ _))

/-- Whether a text has neither parentheses nor commas. -/
def Plain (text : String) : Prop :=
  '(' ∉ text.toList ∧ ')' ∉ text.toList ∧ ',' ∉ text.toList

instance (text : String) : Decidable (Plain text) :=
  inferInstanceAs (Decidable (_ ∧ _))

/-- A text before the parenthesis that closes one that opened before it, and what follows. -/
def closing? (depth : Nat) : List Char → Option (List Char × List Char)
  | [] => none
  | c :: rest =>
    match nest? depth c with
    | none => some ([], rest)
    | some next => (closing? next rest).map (Prod.map (c :: ·) id)

/-- A text before its first parenthesis, between that and the one that closes it, and behind. -/
def enclosedChars? : List Char → Option (List Char × List Char × List Char)
  | [] => none
  | c :: rest =>
    if c = '(' then (closing? 0 rest).map fun split => ([], split)
    else (enclosedChars? rest).map (Prod.map (c :: ·) id)

def enclosed? (text : String) : Option (String × String × String) :=
  (enclosedChars? text.toList).map fun (before, inside, behind) =>
    (.ofList before, .ofList inside, .ofList behind)

/-- The texts between the commas with a blank behind them that stand outside of all parentheses. -/
def itemChars (depth : Nat) : List Char → List (List Char)
  | [] => [[]]
  | ',' :: ' ' :: rest =>
    if depth = 0 then [] :: itemChars 0 rest else (itemChars depth rest).modifyHead ([',', ' '] ++ ·)
  | c :: rest => (itemChars ((nest? depth c).getD 0) rest).modifyHead (c :: ·)

def items (text : String) : List String :=
  (itemChars 0 text.toList).map .ofList

variable {depth between after : Nat} {text first second rest behind : List Char} {words words' : String}

theorem depth?_append (depth : Nat) (first second : List Char) :
    depth? depth (first ++ second) = (depth? depth first).bind (depth? · second) :=
  List.foldlM_append

theorem depth?_cons_eq_some {c : Char} :
    depth? depth (c :: rest) = some after ↔ ∃ next, nest? depth c = some next ∧ depth? next rest = some after := by
  rw [depth?, List.foldlM_cons]
  exact Option.bind_eq_some_iff

theorem nest?_of_not_paren {c : Char} (opening : c ≠ '(') (closing : c ≠ ')') : nest? depth c = some depth :=
  ScanToken.step?_of_not_paren (by simp [ScanToken.isParen, opening, closing])

theorem outer_append (reached : depth? depth first = some between) :
    outer depth (first ++ second) = outer depth first ++ outer between second := by
  induction first generalizing depth with
  | nil => exact Option.some.inj reached ▸ rfl
  | cons c first ih =>
    obtain ⟨next, step, reached⟩ := depth?_cons_eq_some.mp reached
    rw [List.cons_append, outer, outer, step, Option.getD_some, ih reached, List.append_assoc]

theorem closing?_append (balanced : depth? depth text = some 0) :
    closing? depth (text ++ ')' :: behind) = some (text, behind) := by
  induction text generalizing depth with
  | nil => exact Option.some.inj balanced ▸ rfl
  | cons c text ih =>
    obtain ⟨next, step, balanced⟩ := depth?_cons_eq_some.mp balanced
    rw [List.cons_append, closing?, step]
    show Option.map _ (closing? next _) = _
    rw [ih balanced]
    rfl

theorem enclosed?_append {before inside behind : String} (closed : '(' ∉ before.toList)
    (balanced : depth? 0 inside.toList = some 0) :
    enclosed? (before ++ "(" ++ inside ++ ")" ++ behind) = some (before, inside, behind) := by
  have chars (before : List Char) (closed : '(' ∉ before) :
      enclosedChars? (before ++ '(' :: (inside.toList ++ ')' :: behind.toList)) =
        some (before, inside.toList, behind.toList) := by
    induction before with
    | nil =>
      show Option.map _ (closing? 0 _) = _
      rw [closing?_append balanced]
      rfl
    | cons c before ih =>
      rw [List.mem_cons, not_or] at closed
      obtain ⟨other, closed⟩ := closed
      rw [List.cons_append, enclosedChars?, if_neg (Ne.symm other), ih closed]
      rfl
  have spelled : (before ++ "(" ++ inside ++ ")" ++ behind).toList =
      before.toList ++ '(' :: (inside.toList ++ ')' :: behind.toList) := by
    simp
  rw [enclosed?, spelled, chars before.toList closed]
  simp

/-! ### Items -/

theorem itemChars_cons {c : Char} (inner : depth = 0 → c ≠ ',') :
    itemChars depth (c :: rest) = (itemChars ((nest? depth c).getD 0) rest).modifyHead (c :: ·) := by
  by_cases separator : ∃ behind, c = ',' ∧ rest = ' ' :: behind
  · obtain ⟨behind, rfl, rfl⟩ := separator
    have comma : nest? depth ',' = some depth := nest?_of_not_paren (by decide) (by decide)
    have tail : itemChars depth (' ' :: behind) = (itemChars depth behind).modifyHead (' ' :: ·) := by
      rw [itemChars, nest?_of_not_paren (by decide) (by decide), Option.getD_some]
      nofun
    rw [itemChars, if_neg fun outermost => inner outermost rfl, comma, Option.getD_some, tail,
      List.modifyHead_modifyHead]
    rfl
  · rw [itemChars]
    exact fun behind comma blank => separator ⟨behind, comma, blank⟩

theorem itemChars_append (balanced : depth? depth text = some 0) (apart : ',' ∉ outer depth text) (rest : List Char) :
    itemChars depth (text ++ rest) = (itemChars 0 rest).modifyHead (text ++ ·) := by
  induction text generalizing depth with
  | nil =>
    cases balanced
    exact (congrFun List.modifyHead_id (itemChars 0 rest)).symm
  | cons c text ih =>
    obtain ⟨next, step, balanced⟩ := depth?_cons_eq_some.mp balanced
    rw [outer, step, List.mem_append, not_or] at apart
    have inner : depth = 0 → c ≠ ',' := fun outermost same => apart.1 (by simp [outermost, same])
    rw [List.cons_append, itemChars_cons inner, step, Option.getD_some, ih balanced apart.2, List.modifyHead_modifyHead]
    rfl

theorem items_intercalate {texts : List String} (inhabited : texts ≠ []) (whole : ∀ text ∈ texts, Whole text) :
    items (", ".intercalate texts) = texts := by
  induction texts with
  | nil => contradiction
  | cons first texts ih =>
    obtain ⟨⟨balanced, apart⟩, others⟩ := List.forall_mem_cons.mp whole
    cases texts with
    | nil =>
      have single := itemChars_append balanced apart []
      rw [List.append_nil] at single
      rw [String.intercalate_singleton, items, single]
      simp [itemChars]
    | cons second texts =>
      have later := ih (List.cons_ne_nil second texts) others
      rw [String.intercalate_cons_cons, items, String.toList_append, String.toList_append, List.append_assoc,
        itemChars_append balanced apart]
      show List.map String.ofList (List.modifyHead _ ([] :: itemChars 0 _)) = _
      rw [List.modifyHead_cons, List.map_cons, List.append_nil, String.ofList_toList]
      exact congrArg (first :: ·) later

namespace Whole

theorem append (head : Whole words) (tail : Whole words') : Whole (words ++ words') := by
  obtain ⟨balanced, apart⟩ := head
  obtain ⟨balanced', apart'⟩ := tail
  rw [Whole, String.toList_append, depth?_append, balanced, outer_append balanced, List.mem_append, not_or]
  exact ⟨balanced', apart, apart'⟩

end Whole

theorem Plain.whole (plain : Plain words) : Whole words := by
  obtain ⟨opening, closing, comma⟩ := plain
  rw [Whole]
  generalize words.toList = text at *
  induction text with
  | nil => exact ⟨rfl, List.not_mem_nil⟩
  | cons c text ih =>
    rw [List.mem_cons, not_or] at opening closing comma
    obtain ⟨balanced, apart⟩ := ih opening.2 closing.2 comma.2
    have step : nest? 0 c = some 0 := nest?_of_not_paren (Ne.symm opening.1) (Ne.symm closing.1)
    refine ⟨depth?_cons_eq_some.mpr ⟨0, step, balanced⟩, ?_⟩
    rw [outer, step]
    exact fun mem => (List.mem_append.mp mem).elim (fun own => comma.1 (List.mem_singleton.mp own)) apart

theorem balanced_intercalate {texts : List String} (whole : ∀ text ∈ texts, Whole text) :
    depth? 0 (", ".intercalate texts).toList = some 0 := by
  induction texts with
  | nil => rfl
  | cons first texts ih =>
    obtain ⟨own, others⟩ := List.forall_mem_cons.mp whole
    cases texts with
    | nil =>
      rw [String.intercalate_singleton]
      exact own.1
    | cons second texts =>
      rw [String.intercalate_cons_cons, String.toList_append, String.toList_append, List.append_assoc, depth?_append,
        own.1]
      exact ih others

theorem occurs_iff (part text : List Char) : occurs part text = true ↔ part <:+: text := by
  induction text with
  | nil => simp [occurs]
  | cons c text ih => rw [occurs, Bool.or_eq_true, List.isPrefixOf_iff_prefix, ih, List.infix_cons_iff]

end Text

namespace TemporaryColumn

/-- The type of a column: its own definition, or that of the configuration, or the built-in one. -/
inductive HasType (config : Config) (column : TemporaryColumn) : String → Prop
  | own {type : String} (explicit : column.typeDefinition = some type) : HasType config column type
  | configured {type : String} (absent : column.typeDefinition = none)
    (found : config.typeNames.find? column.sqlType.name = some type) : HasType config column type
  | builtIn (absent : column.typeDefinition = none) (unnamed : config.typeNames.find? column.sqlType.name = none) :
    HasType config column column.sqlType.columnType

/-- What a column of a type says of null. -/
inductive SaysOfNull (config : Config) (tables : TemporaryTables) (column : TemporaryColumn) (type : String) :
    String → Prop
  | unsupported (off : tables.nullConstraints = false) : SaysOfNull config tables column type ""
  | excluded (on : tables.nullConstraints = true) (required : column.nullable = false) :
    SaysOfNull config tables column type " not null"
  | admitted (on : tables.nullConstraints = true) (optional : column.nullable = true)
    (unmarked : ¬ config.nullMarker.toList <:+: type.toList) : SaysOfNull config tables column type config.nullMarker
  -- The type has the marker already.
  | marked (on : tables.nullConstraints = true) (optional : column.nullable = true)
    (there : config.nullMarker.toList <:+: type.toList) : SaysOfNull config tables column type ""

/-- The definition of a column. -/
inductive DefinedBy (config : Config) (tables : TemporaryTables) (column : TemporaryColumn) : String → Prop
  | bare {type null : String} (typed : column.HasType config type) (said : column.SaysOfNull config tables type null)
    (unannotated : tables.annotation column.sqlType = "") :
    DefinedBy config tables column (column.name ++ " " ++ type ++ null)
  | annotated {type null : String} (typed : column.HasType config type)
    (said : column.SaysOfNull config tables type null) (present : tables.annotation column.sqlType ≠ "") :
    DefinedBy config tables column (column.name ++ " " ++ type ++ " " ++ tables.annotation column.sqlType ++ null)

theorem hasType_typeText (config : Config) (column : TemporaryColumn) :
    column.HasType config (column.typeText config) := by
  unfold typeText Config.typeName
  cases own : column.typeDefinition with
  | some type => exact .own own
  | none =>
    cases found : config.typeNames.find? column.sqlType.name with
    | some type => exact .configured own found
    | none => exact .builtIn own found

end TemporaryColumn

namespace TemporaryTable

open TemporaryColumn

/-- What follows the columns of a table. -/
inductive KeyedBy (tables : TemporaryTables) (columns : List TemporaryColumn) : String → Prop
  | unsupported (off : tables.primaryKeys = false) : KeyedBy tables columns ""
  | absent (keyless : ∀ column ∈ columns, column.primaryKey = false) : KeyedBy tables columns ""
  | present (on : tables.primaryKeys = true) (some : ∃ column ∈ columns, column.primaryKey = true) :
    KeyedBy tables columns
      (" primary key (" ++ ", ".intercalate ((columns.filter (·.primaryKey)).map (·.name)) ++ ")")

/-- Whether the parts of a table's statement keep apart. -/
structure Readable (config : Config) (tables : TemporaryTables) (table : TemporaryTable) : Prop where
  supported : config.temporaryTables = some tables
  keyword : '(' ∉ config.createTable.toList
  name : ∀ part ∈ table.name.catalog.toList ++ table.name.schema.toList ++ [table.name.table], Text.Plain part
  inhabited : table.columns ≠ []
  columns : ∀ column ∈ table.columns, Text.Plain column.name
  types : ∀ column ∈ table.columns, Text.Whole (column.typeText config)
  annotations : ∀ column ∈ table.columns, Text.Whole <| tables.annotation column.sqlType
  marker : Text.Whole config.nullMarker

variable {config : Config} {tables : TemporaryTables} {table : TemporaryTable} {column : TemporaryColumn}

theorem saysOfNull_nullText (config : Config) (tables : TemporaryTables) (column : TemporaryColumn) :
    column.SaysOfNull config tables (column.typeText config) (nullText config tables column) := by
  unfold nullText
  cases on : tables.nullConstraints with
  | false => exact .unsupported on
  | true =>
    cases optional : column.nullable with
    | false => exact .excluded on optional
    | true =>
      simp only [Bool.not_true, Bool.false_eq_true, if_false]
      split_ifs with there
      · exact .marked on optional ((Text.occurs_iff _ _).mp there)
      · exact .admitted on optional ((Text.occurs_iff _ _).not.mp there)

theorem definedBy_columnText (config : Config) (tables : TemporaryTables) (column : TemporaryColumn) :
    column.DefinedBy config tables (columnText config tables column) := by
  have typed := column.hasType_typeText config
  have said := saysOfNull_nullText config tables column
  by_cases unannotated : tables.annotation column.sqlType = ""
  · have defined := DefinedBy.bare typed said unannotated
    simpa [columnText, unannotated] using defined
  · have defined := DefinedBy.annotated typed said unannotated
    simpa [columnText, unannotated, String.append_assoc] using defined

theorem keyedBy_keyText (tables : TemporaryTables) (columns : List TemporaryColumn) :
    KeyedBy tables columns (keyText tables columns) := by
  unfold keyText
  cases on : tables.primaryKeys with
  | false => exact .unsupported on
  | true =>
    by_cases present : ∃ column ∈ columns, column.primaryKey = true
    · obtain ⟨column, mem, key⟩ := present
      have inhabited : (columns.filter (·.primaryKey)).map (·.name) ≠ [] :=
        List.ne_nil_of_mem (List.mem_map_of_mem (List.mem_filter.mpr ⟨mem, key⟩))
      simp only [Bool.true_and, List.isEmpty_eq_false_iff.mpr inhabited, Bool.not_false, if_true]
      exact .present on ⟨column, mem, key⟩
    · have keyless : ∀ column ∈ columns, column.primaryKey = false := by simpa using present
      have none : columns.filter (·.primaryKey) = [] := List.filter_eq_nil_iff.mpr (by simpa using keyless)
      rw [none]
      exact .absent keyless

theorem whole_columnText (plain : Text.Plain column.name) (type : Text.Whole (column.typeText config))
    (noted : Text.Whole <| tables.annotation column.sqlType) (marker : Text.Whole config.nullMarker) :
    Text.Whole (columnText config tables column) := by
  refine ((plain.whole.append ?_).append type).append ?_ |>.append ?_
  · decide
  · split_ifs
    · decide
    · exact Text.Whole.append (by decide) noted
  · unfold nullText
    split_ifs
    · decide
    · decide
    · decide
    · exact marker

theorem not_mem_name {name : QualifiedName}
    (plain : ∀ part ∈ name.catalog.toList ++ name.schema.toList ++ [name.table], Text.Plain part) :
    '(' ∉ name.text.toList :=
  not_mem_intercalate (by decide) fun part mem => (plain part mem).1

/-- The statement that creates a table reads as what the table is: the keyword and the name, a definition for each
column in its place, and the primary key. -/
theorem createText_reads (readable : Readable config tables table) :
    ∃ text inside behind, table.createText config = .ok text ∧
      Text.enclosed? text = some (config.createTable ++ " " ++ table.name.text, inside, behind) ∧
      List.Forall₂ (TemporaryColumn.DefinedBy config tables) table.columns (Text.items inside) ∧
      KeyedBy tables table.columns behind := by
  have whole : ∀ text ∈ table.columns.map (columnText config tables), Text.Whole text :=
    List.forall_mem_map.mpr fun column mem => whole_columnText (readable.columns column mem)
      (readable.types column mem) (readable.annotations column mem) readable.marker
  have inhabited : table.columns.map (columnText config tables) ≠ [] := List.map_eq_nil_iff.not.mpr readable.inhabited
  have closed : '(' ∉ (config.createTable ++ " " ++ table.name.text).toList := by
    rw [String.toList_append, String.toList_append, List.mem_append, List.mem_append, not_or, not_or]
    exact ⟨⟨readable.keyword, by decide⟩, not_mem_name readable.name⟩
  refine ⟨_, ", ".intercalate (table.columns.map (columnText config tables)), keyText tables table.columns, ?_,
    Text.enclosed?_append closed (Text.balanced_intercalate whole), ?_, keyedBy_keyText tables table.columns⟩
  · rw [createText, Config.temporaryTables?, readable.supported]
    rfl
  · rw [Text.items_intercalate inhabited whole, List.forall₂_map_right_iff, List.forall₂_same]
    exact fun column _ => definedBy_columnText config tables column

/-- Types, an annotation and a marker with parentheses of their own. -/
theorem createText_reads_nested :
    let tables : TemporaryTables := { columnAnnotations := .ofList [("timestamp", "options (a, (b))")] }
    let config : Config :=
      { nullMarker := " null", typeNames := .ofList [("varchar", "string(36) null")], temporaryTables := some tables }
    let table : TemporaryTable := ⟨⟨some "c", none, "t"⟩,
      [{ name := "id", sqlType := .bigInt, nullable := false, primaryKey := true },
        { name := "sum", typeDefinition := some "numeric(10, 2)" }, { name := "name", sqlType := .varchar },
        { name := "at", sqlType := .timestamp, primaryKey := true }], none⟩
    let inside := "id int64 not null, sum numeric(10, 2) null, name string(36) null, at timestamp options (a, (b)) null"
    Readable config tables table ∧
      table.createText config = .ok ("create table c.t(" ++ inside ++ ") primary key (id, at)") ∧
      List.Forall₂ (TemporaryColumn.DefinedBy config tables) table.columns
        ["id int64 not null", "sum numeric(10, 2) null", "name string(36) null",
          "at timestamp options (a, (b)) null"] := by
  intro tables config table inside
  have readable : Readable config tables table :=
    ⟨rfl, by decide, by decide, by decide, by decide, by decide, by decide, by decide⟩
  have spelled : table.createText config = .ok ("create table c.t(" ++ inside ++ ") primary key (id, at)") :=
    congrArg Except.ok (by decide +kernel)
  have read : Text.enclosed? ("create table c.t(" ++ inside ++ ") primary key (id, at)") =
      some ("create table c.t", inside, " primary key (id, at)") := by decide +kernel
  have items : Text.items inside = ["id int64 not null", "sum numeric(10, 2) null", "name string(36) null",
      "at timestamp options (a, (b)) null"] := by decide +kernel
  obtain ⟨text, inside', behind, created, enclosed, defined, -⟩ := createText_reads readable
  rw [← Except.ok.inj (spelled.symm.trans created), read, Option.some.injEq, Prod.mk.injEq, Prod.mk.injEq] at enclosed
  rw [← enclosed.2.1, items] at defined
  exact ⟨readable, spelled, defined⟩

end TemporaryTable

end PortableSql
