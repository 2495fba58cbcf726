import PortableSql.ArrayValue
import PortableSql.Proofs.FormReading

/-! Every form reads back as what it was made of.

Of statements, temporary tables and configurations this holds for every loosening of the form too. A
form keeps all numbers as they are; only the text of a form has none for what is not finite. Dates
and times are kept as texts.
-/

set_option autoImplicit false

namespace PortableSql

open Json

namespace NameMap

variable {α : Type}

theorem setEntry_append {name : String} {value : α} {entries : List (String × α)}
    (below : ∀ entry ∈ entries, entry.1 < name) :
    setEntry name value entries = entries ++ [(name, value)] := by
  induction entries with
  | nil => rfl
  | cons entry entries ih =>
    obtain ⟨first, rest⟩ := List.forall_mem_cons.mp below
    have notLess : ¬ name < entry.1 := fun less => String.lt_irrefl _ (String.lt_trans less first)
    have other : name ≠ entry.1 := fun same => String.lt_irrefl entry.1 (same ▸ first)
    rw [setEntry, if_neg notLess, if_neg other, ih rest, List.cons_append]

theorem entries_foldl_insert (before : NameMap α) {rest : List (String × α)}
    (ordered : (before.entries ++ rest).Pairwise fun a b => a.1 < b.1) :
    (rest.foldl (fun map entry => map.insert entry.1 entry.2) before).entries
      = before.entries ++ rest := by
  induction rest generalizing before with
  | nil => exact (List.append_nil _).symm
  | cons entry rest ih =>
    have below : ∀ other ∈ before.entries, other.1 < entry.1 := fun other mem =>
      (List.pairwise_append.mp ordered).2.2 other mem entry List.mem_cons_self
    have last : (before.insert entry.1 entry.2).entries = before.entries ++ [entry] :=
      setEntry_append below
    rw [List.foldl_cons, ih _ (by rwa [last, List.append_assoc]), last, List.append_assoc]
    rfl

theorem ofList_entries (map : NameMap α) : ofList map.entries = map :=
  ext (entries_foldl_insert empty map.ordered)

end NameMap

namespace Form

theorem reads_typeName (type : SqlType) :
    Reads .leaf (fun _ => SqlType.ofJson?) type.toJson type :=
  .leaf fun _ _ => (reads_sqlType type).self

/-! ### Temporary tables -/

theorem reads_qualifiedName (name : QualifiedName) :
    Reads (.node .qualifiedName) (fun _ => QualifiedName.ofJson?) name.toJson name := by
  refine .record rfl fun depth value record opened held => ?_
  obtain ⟨heldCatalog, heldSchema, heldTable, -⟩ := held
  exact read_next opened <| read_next (heldCatalog.optional (reads_optionalText _)) <|
    read_next (heldSchema.optional (reads_optionalText _)) <|
    read_next (heldTable.required (reads_text _)) rfl

theorem reads_temporaryColumn (column : TemporaryColumn) :
    Reads (.node .temporaryColumn) (fun _ => TemporaryColumn.ofJson?) column.toJson column := by
  refine .record rfl fun depth value record opened held => ?_
  obtain ⟨heldName, heldType, heldDefinition, heldNullable, heldKey, -⟩ := held
  exact read_next opened <| read_next (heldName.required (reads_text _)) <|
    read_next (heldType.withDefault (reads_typeName _) (reads_typeName .other)) <|
    read_next (heldDefinition.optional (reads_optionalText _)) <|
    read_next heldNullable.flag <|
    read_next heldKey.flag rfl

theorem reads_temporaryTable (table : TemporaryTable) :
    Reads (.node .temporaryTable) (fun _ => TemporaryTable.ofJson?) table.toJson table := by
  refine .record rfl fun depth value record opened held => ?_
  obtain ⟨heldName, heldColumns, heldSession, -⟩ := held
  have columns : Reads (.list (.node .temporaryColumn)) (fun _ => list? TemporaryColumn.ofJson?)
      (.ofList TemporaryColumn.toJson table.columns) table.columns :=
    .ofList (fun _ _ => rfl) reads_temporaryColumn _
  exact read_next opened <| read_next (heldName.required (reads_qualifiedName _)) <|
    read_next (heldColumns.required columns) <|
    read_next (heldSession.optional (reads_optionalText _)) rfl

/-! ### Configurations -/

theorem reads_textMap (map : NameMap String) :
    Reads .leaf (fun _ => textMap?) (textMap map) map := by
  have fields (entries : List (String × String)) :
      (entries.map fun entry => (entry.1, Json.string entry.2)).mapM textField? = some entries := by
    induction entries with
    | nil => rfl
    | cons entry entries ih =>
      rw [List.map_cons, List.mapM_cons, ih]
      rfl
  refine .leaf fun _ _ => ?_
  rw [textMap, textMap?, fields, Option.map_some, NameMap.ofList_entries]

theorem reads_literalEscape (style : LiteralEscape) :
    Reads .leaf (fun _ => literalEscape?) (.string style.name) style :=
  .leaf fun _ _ => by cases style <;> rfl

theorem reads_temporaryTables (tables : TemporaryTables) :
    Reads (.node .temporaryTables) (fun _ => TemporaryTables.ofJson?) tables.toJson tables := by
  refine .record rfl fun depth value record opened held => ?_
  obtain ⟨heldAnnotations, heldNull, heldKeys, -⟩ := held
  exact read_next opened <|
    read_next (heldAnnotations.withDefault (reads_textMap _) (reads_textMap .empty)) <|
    read_next heldNull.flag <|
    read_next heldKeys.flag rfl

theorem reads_config (config : Config) :
    Reads (.node .config) (fun _ => Config.ofJson?) config.toJson config := by
  refine .record rfl fun depth value record opened held => ?_
  obtain ⟨heldFollowOn, heldLower, heldEscape, heldCreate, heldNull, heldNames, heldTables, -⟩ :=
    held
  have tables (value : Option TemporaryTables) :
      Reads (.optional (.node .temporaryTables)) (fun _ => orNull? TemporaryTables.ofJson?)
        (.ofOption TemporaryTables.toJson value) value :=
    .ofOption (fun _ => Json.noConfusion) reads_temporaryTables value
  exact read_next opened <|
    read_next heldFollowOn.flag <|
    read_next (heldLower.withDefault (reads_text _) (reads_text _)) <|
    read_next (heldEscape.withDefault (reads_literalEscape _) (reads_literalEscape .backslash)) <|
    read_next (heldCreate.withDefault (reads_text _) (reads_text _)) <|
    read_next (heldNull.withDefault (reads_text _) (reads_text _)) <|
    read_next (heldNames.withDefault (reads_textMap _) (reads_textMap _)) <|
    read_next (heldTables.withDefault (tables _) (tables _)) rfl

-- Null says that there are no temporary tables, a missing field that there are the usual ones.
example : Config.ofJson? (.object [("temporary_table", .null)]) = some { temporaryTables := none } :=
  rfl

end Form

/-! ### Arrays -/

namespace ArrayValue

open Form

theorem elements?_ofList {α : Type} (encode : α → Json) {read : Json → Option α}
    (filled : ∀ value, encode value ≠ .null) (reads : ∀ value, read (encode value) = some value)
    (values : List (Option α)) :
    elements? read (.ofList (.ofOption encode) values) = some values := by
  have element (value : α) : Reads .leaf (fun _ => read) (encode value) value :=
    .leaf fun _ _ => reads value
  have all : Reads (.list (.optional .leaf)) (fun _ => elements? read)
      (.ofList (.ofOption encode) values) values :=
    .ofList (fun _ _ => rfl) (.ofOption filled element) values
  exact all.self

theorem int8?_toInt (n : Int8) : int8? (.int n.toInt) = some n := by
  rw [int8?, intWithin?, if_pos ⟨n.minValue_le_toInt, n.toInt_le⟩, Option.map_some,
    Int8.ofInt_toInt]

theorem int16?_toInt (n : Int16) : int16? (.int n.toInt) = some n := by
  rw [int16?, intWithin?, if_pos ⟨n.minValue_le_toInt, n.toInt_le⟩, Option.map_some,
    Int16.ofInt_toInt]

theorem int32?_toInt (n : Int32) : int32? (.int n.toInt) = some n := by
  rw [int32?, intWithin?, if_pos ⟨n.minValue_le_toInt, n.toInt_le⟩, Option.map_some,
    Int32.ofInt_toInt]

theorem ofJson?_toJson (array : ArrayValue) : ofJson? array.toJson = some array := by
  cases array with
  | bool values =>
    exact congrArg (Option.map bool)
      (elements?_ofList Json.bool (fun _ => Json.noConfusion) (fun _ => rfl) values)
  | tinyInt values =>
    exact congrArg (Option.map tinyInt)
      (elements?_ofList _ (fun _ => Json.noConfusion) int8?_toInt values)
  | smallInt values =>
    exact congrArg (Option.map smallInt)
      (elements?_ofList _ (fun _ => Json.noConfusion) int16?_toInt values)
  | integer values =>
    exact congrArg (Option.map integer)
      (elements?_ofList _ (fun _ => Json.noConfusion) int32?_toInt values)
  | bigInt values =>
    exact congrArg (Option.map bigInt)
      (elements?_ofList _ (fun _ => Json.noConfusion) int64?_toInt values)
  | double values =>
    exact congrArg (Option.map double)
      (elements?_ofList Json.float (fun _ => Json.noConfusion) (fun _ => rfl) values)
  | string values =>
    exact congrArg (Option.map string)
      (elements?_ofList Json.string (fun _ => Json.noConfusion) (fun _ => rfl) values)

end ArrayValue

open Form in
/-- Decoding undoes encoding: a statement, a temporary table and a configuration are read back from
their forms and from every loosening of them, and an array is read back from its form. -/
theorem Form.decode_encode :
    (∀ s : Statement, Statement.ofJson? s.toJson = some s ∧
      ∀ loose, Loosens (.node .statement) s.toJson loose → Statement.ofJson? loose = some s) ∧
    (∀ t : TemporaryTable, TemporaryTable.ofJson? t.toJson = some t ∧
      ∀ loose, Loosens (.node .temporaryTable) t.toJson loose →
        TemporaryTable.ofJson? loose = some t) ∧
    (∀ c : Config, Config.ofJson? c.toJson = some c ∧
      ∀ loose, Loosens (.node .config) c.toJson loose → Config.ofJson? loose = some c) ∧
    ∀ a : ArrayValue, ArrayValue.ofJson? a.toJson = some a :=
  ⟨fun s => (reads_statement s).whole, fun t => (reads_temporaryTable t).whole,
    fun c => (reads_config c).whole, ArrayValue.ofJson?_toJson⟩

open Form in
/-- A form that leaves out an absent alias, an absent restriction and an empty list, and has a field
of an unknown name. -/
theorem Form.decode_encode_delete :
    Loosens (.node .statement) (Statement.delete { target := { table := "t" } }).toJson
      (.tagged "Delete" (.object [("note", .int 1), ("target", .object [("table", .string "t")])]))
    ∧ Statement.ofJson? (.tagged "Delete"
        (.object [("note", .int 1), ("target", .object [("table", .string "t")])]))
      = some (.delete { target := { table := "t" } }) := by
  have target : FieldsLoosen .namedTable [("table", .string "t"), ("alias", .null)]
      [("table", .string "t")] :=
    @FieldsLoosen.keep .namedTable (.required "table" .leaf) _ _ _ _ (.head _) (.same _ _) <|
      @FieldsLoosen.drop .namedTable (.optional "alias" .leaf) _ _ _ (.tail _ (.head _)) rfl .nil
  have rest : FieldsLoosen .delete [("restriction", .null), ("returning", .array [])] [] :=
    @FieldsLoosen.drop .delete (.optional "restriction" (.node .predicate)) _ _ _
        (.tail _ (.head _)) rfl <|
      @FieldsLoosen.drop .delete (.listed "returning" (.node .column)) _ _ _
        (.tail _ (.tail _ (.head _))) rfl .nil
  have fields := @FieldsLoosen.keep .delete (.required "target" (.node .namedTable)) _ _ _ _
    (.head _) (.record (List.cons_ne_nil _ _) target) rest
  have unknown : "note" ∉ Kind.delete.names := by decide
  have known : ("Delete", Place.node .delete) ∈ Kind.statement.alternatives := by decide
  have loosens := Loosens.alternative known
    (.record (List.cons_ne_nil _ _) (.add unknown (.int 1) fields))
  exact ⟨loosens, (decode_encode.1 _).2 _ loosens⟩

end PortableSql
