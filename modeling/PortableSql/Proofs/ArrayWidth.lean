import Mathlib.Algebra.Group.Int.Defs
import PortableSql.ArrayValue

/-! Integer arrays in 64 bits and in fewer.

To bind an array of a narrower type and to extract it again gives the array back, and so the other way
round where every element is in range; else the first that is not is reported. A JSON array is one of a
narrower type if it is one of 64 bits that can be extracted (`ArrayValue.bind_extract_parse`). All of that
is proved once, of any type with a range and with conversions that agree on it (`NarrowElements`).
-/

set_option autoImplicit false

namespace PortableSql

/-- Whether an integer is in the range of a type of integers. -/
def SqlType.Holds (type : SqlType) (n : Int) : Prop :=
  -2 ^ (type.width - 1) ≤ n ∧ n < 2 ^ (type.width - 1)

instance (type : SqlType) (n : Int) : Decidable (type.Holds n) :=
  inferInstanceAs (Decidable (_ ∧ _))

/-- What a type holds fits in 64 bits. -/
theorem SqlType.Holds.wide {type : SqlType} {n : Int} (holds : type.Holds n) : SqlType.bigInt.Holds n := by
  cases type <;> simp only [Holds, width] at holds ⊢ <;> omega

namespace Json

theorem intWithin?_eq_some_iff {value : Json} {least greatest n : Int} :
    value.intWithin? least greatest = some n ↔ value = .int n ∧ least ≤ n ∧ n ≤ greatest := by
  cases value with
  | int m =>
    rw [intWithin?, Option.ite_none_right_eq_some, int.injEq, Option.some.injEq]
    exact ⟨fun ⟨within, same⟩ => ⟨same, same ▸ within⟩, fun ⟨same, within⟩ => ⟨same ▸ within, same⟩⟩
  | null | bool | float | string | array | object | meaningless => exact iff_of_false nofun nofun

theorem int64?_eq_some_iff {value : Json} {n : Int64} : value.int64? = some n ↔ value = .int n.toInt := by
  rw [int64?, Option.map_eq_some_iff]
  constructor
  · rintro ⟨m, found, rfl⟩
    obtain ⟨rfl, least, greatest⟩ := intWithin?_eq_some_iff.mp found
    rw [Int64.toInt_ofInt_of_le least (Int.lt_of_le_of_lt greatest (by decide))]
  · rintro rfl
    exact ⟨n.toInt, intWithin?_eq_some_iff.mpr ⟨rfl, n.minValue_le_toInt, n.toInt_le⟩, n.ofInt_toInt⟩

theorem orNull?_of_ne_null {α : Type} {read : Json → Option α} {value : Json} (present : value ≠ .null) :
    value.orNull? read = (read value).map some := by
  cases value with
  | null => contradiction
  | bool | int | float | string | array | object | meaningless => rfl

end Json

namespace ArrayValue

/-- The integers of an array of integers. -/
def integers? : ArrayValue → Option (List (Option Int))
  | .tinyInt values => some (values.map (·.map Int8.toInt))
  | .smallInt values => some (values.map (·.map Int16.toInt))
  | .integer values => some (values.map (·.map Int32.toInt))
  | .bigInt values => some (values.map (·.map Int64.toInt))
  | .bool _ | .double _ | .string _ => none

/-- Only arrays of integers are bound or extracted as others than they are, and only for a narrower type. -/
theorem bind_extract_unchanged {declared : SqlType} {array : ArrayValue}
    (foreign : declared.isNarrowInteger = false ∨ array.integers? = none) :
    bind declared array = array ∧ extract declared array = .ok array := by
  cases array with
  | bool | double | string => exact ⟨ite_self _, rfl⟩
  | tinyInt | smallInt | integer | bigInt =>
    have other : declared.isNarrowInteger = false := foreign.resolve_right nofun
    refine ⟨if_neg (Bool.eq_false_iff.mp other), ?_⟩
    cases declared <;> first | rfl | contradiction

theorem parse_eq_ok_iff {declared : SqlType} {text : String} {array : ArrayValue} :
    parse declared text = .ok array ↔
      ofElements? declared ((Json.ofText? text).getD .meaningless) = .ok (some array) := by
  rw [parse]
  cases ofElements? declared ((Json.ofText? text).getD .meaningless) with
  | error cause => exact iff_of_false nofun nofun
  | ok found =>
    cases found with
    | none => exact iff_of_false nofun nofun
    | some found => exact ⟨fun same => by cases same; rfl, fun same => by cases same; rfl⟩

theorem parse_bigInt_eq_ok_iff {text : String} {array : ArrayValue} :
    parse .bigInt text = .ok array ↔
      ∃ values, elements? Json.int64? ((Json.ofText? text).getD .meaningless) = some values ∧
        .bigInt values = array := by
  rw [parse_eq_ok_iff, ofElements?, Except.ok.injEq, Option.map_eq_some_iff]

end ArrayValue

/-- A type of integers of fewer than 64 bits: its range, its elements in 64 bits and back, and how arrays
of it are bound, extracted and read. -/
structure NarrowElements (α : Type) where
  type : SqlType
  least : Int
  greatest : Int
  widen : α → Int64
  narrow : Int64 → α
  ofInt : Int → α
  array : List (Option α) → ArrayValue
  holds_iff (n : Int) : type.Holds n ↔ least ≤ n ∧ n ≤ greatest
  holds_widen (a : α) : type.Holds (widen a).toInt
  narrow_widen (a : α) : narrow (widen a) = a
  narrow_ofInt (n : Int) : narrow (.ofInt n) = ofInt n
  widen_ofInt (n : Int) : least ≤ n → n ≤ greatest → widen (ofInt n) = .ofInt n
  elementType_array (elements : List (Option α)) : (array elements).elementType = type
  array_of_elementType (value : ArrayValue) : value.elementType = type → ∃ elements, value = array elements
  integers?_array (elements : List (Option α)) :
    (array elements).integers? = some (elements.map (·.map fun a => (widen a).toInt))
  bind_array (elements : List (Option α)) :
    ArrayValue.bind type (array elements) = .bigInt (elements.map (·.map widen))
  extract_bigInt (values : List (Option Int64)) :
    ArrayValue.extract type (.bigInt values) = array <$> ArrayValue.narrow type least greatest narrow 0 values
  ofElements?_type (value : Json) : ArrayValue.ofElements? type value =
    .ok ((ArrayValue.elements? (fun item => (item.intWithin? least greatest).map ofInt) value).map array)

namespace NarrowElements

def tinyInt : NarrowElements Int8 where
  type := .tinyInt
  least := Int8.minValue.toInt
  greatest := Int8.maxValue.toInt
  widen := Int8.toInt64
  narrow := Int64.toInt8
  ofInt := Int8.ofInt
  array := .tinyInt
  holds_iff _ := and_congr_right' Int.le_sub_one_iff.symm
  holds_widen a := a.toInt_toInt64.symm ▸ ⟨a.le_toInt, a.toInt_lt⟩
  narrow_widen := Int8.toInt8_toInt64
  narrow_ofInt _ := Int64.toInt8_ofInt
  widen_ofInt _ := Int8.toInt64_ofInt
  elementType_array _ := rfl
  array_of_elementType value same := by
    cases value with
    | tinyInt elements => exact ⟨elements, rfl⟩
    | _ => cases same
  integers?_array elements := by simp only [ArrayValue.integers?, Int8.toInt_toInt64]
  bind_array _ := rfl
  extract_bigInt _ := rfl
  ofElements?_type _ := rfl

def smallInt : NarrowElements Int16 where
  type := .smallInt
  least := Int16.minValue.toInt
  greatest := Int16.maxValue.toInt
  widen := Int16.toInt64
  narrow := Int64.toInt16
  ofInt := Int16.ofInt
  array := .smallInt
  holds_iff _ := and_congr_right' Int.le_sub_one_iff.symm
  holds_widen a := a.toInt_toInt64.symm ▸ ⟨a.le_toInt, a.toInt_lt⟩
  narrow_widen := Int16.toInt16_toInt64
  narrow_ofInt _ := Int64.toInt16_ofInt
  widen_ofInt _ := Int16.toInt64_ofInt
  elementType_array _ := rfl
  array_of_elementType value same := by
    cases value with
    | smallInt elements => exact ⟨elements, rfl⟩
    | _ => cases same
  integers?_array elements := by simp only [ArrayValue.integers?, Int16.toInt_toInt64]
  bind_array _ := rfl
  extract_bigInt _ := rfl
  ofElements?_type _ := rfl

def integer : NarrowElements Int32 where
  type := .integer
  least := Int32.minValue.toInt
  greatest := Int32.maxValue.toInt
  widen := Int32.toInt64
  narrow := Int64.toInt32
  ofInt := Int32.ofInt
  array := .integer
  holds_iff _ := and_congr_right' Int.le_sub_one_iff.symm
  holds_widen a := a.toInt_toInt64.symm ▸ ⟨a.le_toInt, a.toInt_lt⟩
  narrow_widen := Int32.toInt32_toInt64
  narrow_ofInt _ := Int64.toInt32_ofInt
  widen_ofInt _ := Int32.toInt64_ofInt
  elementType_array _ := rfl
  array_of_elementType value same := by
    cases value with
    | integer elements => exact ⟨elements, rfl⟩
    | _ => cases same
  integers?_array elements := by simp only [ArrayValue.integers?, Int32.toInt_toInt64]
  bind_array _ := rfl
  extract_bigInt _ := rfl
  ofElements?_type _ := rfl

variable {α : Type} (elements : NarrowElements α)

theorem widen_narrow {n : Int64} (holds : elements.type.Holds n.toInt) : elements.widen (elements.narrow n) = n := by
  obtain ⟨least, greatest⟩ := (elements.holds_iff _).mp holds
  have same := elements.narrow_ofInt n.toInt
  rw [n.ofInt_toInt] at same
  rw [same, elements.widen_ofInt _ least greatest, n.ofInt_toInt]

/-! ### Elements one after the other -/

def narrowFrom (index : Nat) (values : List (Option Int64)) : Except Error (List (Option α)) :=
  ArrayValue.narrow elements.type elements.least elements.greatest elements.narrow index values

theorem narrowFrom_null (index : Nat) (rest : List (Option Int64)) :
    elements.narrowFrom index (none :: rest) = (none :: ·) <$> elements.narrowFrom (index + 1) rest := rfl

theorem narrowFrom_held {n : Int64} (holds : elements.type.Holds n.toInt) (index : Nat)
    (rest : List (Option Int64)) : elements.narrowFrom index (some n :: rest) =
      (some (elements.narrow n) :: ·) <$> elements.narrowFrom (index + 1) rest := by
  rw [narrowFrom, ArrayValue.narrow]
  simp only [if_pos ((elements.holds_iff _).mp holds)]
  rfl

theorem narrowFrom_beyond {n : Int64} (beyond : ¬ elements.type.Holds n.toInt) (index : Nat)
    (rest : List (Option Int64)) : elements.narrowFrom index (some n :: rest) =
      .error (.elementRange index n.toInt elements.type) := by
  rw [narrowFrom, ArrayValue.narrow]
  simp only [if_neg (mt (elements.holds_iff _).mpr beyond)]
  rfl

/-- Whether all elements are in range. -/
def Held (values : List (Option Int64)) : Prop :=
  ∀ n, some n ∈ values → elements.type.Holds n.toInt

variable {elements} {values : List (Option Int64)}

-- The index goes on past nulls too: it counts all elements, not only those that can be out of range.
theorem Held.narrowFrom_append (held : elements.Held values) (index : Nat) (rest : List (Option Int64)) :
    elements.narrowFrom index (values ++ rest) =
      (values.map (·.map elements.narrow) ++ ·) <$> elements.narrowFrom (index + values.length) rest := by
  induction values generalizing index with
  | nil => exact (id_map _).symm
  | cons value values ih =>
    have next := ih (fun n mem => held n (.tail _ mem)) (index + 1)
    rw [List.length_cons, ← Nat.add_assoc, Nat.add_right_comm]
    cases value with
    | none =>
      rw [List.cons_append, narrowFrom_null, next, Functor.map_map]
      rfl
    | some n =>
      rw [List.cons_append, narrowFrom_held elements (held n (.head _)), next, Functor.map_map]
      rfl

theorem held_cons {value : Option Int64} :
    elements.Held (value :: values) ↔ (∀ n ∈ value, elements.type.Holds n.toInt) ∧ elements.Held values := by
  simp only [Held, List.mem_cons, or_imp, forall_and, Option.mem_def, eq_comm]

variable (elements) in
/-- Either all elements are in range or one is the first that is not. -/
theorem held_or_beyond (values : List (Option Int64)) : elements.Held values ∨
    ∃ before n after, values = before ++ some n :: after ∧ elements.Held before ∧
      ¬ elements.type.Holds n.toInt := by
  cases found : values.find? (·.any fun n => !decide (elements.type.Holds n.toInt)) with
  | none =>
    refine .inl fun n mem => ?_
    simpa using List.find?_eq_none.mp found _ mem
  | some value =>
    obtain ⟨misfit, before, after, same, held⟩ := List.find?_eq_some_iff_append.mp found
    cases value with
    | none => contradiction
    | some n =>
      refine .inr ⟨before, n, after, same, fun m mem => ?_, by simpa using misfit⟩
      simpa using held _ mem

/-! ### Arrays -/

theorem Held.extract_ok (held : elements.Held values) :
    ArrayValue.extract elements.type (.bigInt values) = .ok (elements.array (values.map (·.map elements.narrow))) := by
  have whole := held.narrowFrom_append 0 []
  rw [List.append_nil] at whole
  have narrowed : elements.narrowFrom 0 values = .ok (values.map (·.map elements.narrow)) :=
    whole.trans (congrArg Except.ok (List.append_nil _))
  exact (elements.extract_bigInt values).trans (congrArg (elements.array <$> ·) narrowed)

theorem Held.extract_error {before : List (Option Int64)} (held : elements.Held before) {n : Int64}
    (beyond : ¬ elements.type.Holds n.toInt) (after : List (Option Int64)) :
    ArrayValue.extract elements.type (.bigInt (before ++ some n :: after)) =
      .error (.elementRange before.length n.toInt elements.type) := by
  have refused : elements.narrowFrom 0 (before ++ some n :: after) =
      .error (.elementRange before.length n.toInt elements.type) := by
    rw [held.narrowFrom_append, narrowFrom_beyond elements beyond, Nat.zero_add]
    rfl
  exact (elements.extract_bigInt _).trans (congrArg (elements.array <$> ·) refused)

/-- An array is extracted where all of its elements are in range. -/
theorem extract_eq_ok_iff {array : ArrayValue} :
    ArrayValue.extract elements.type (.bigInt values) = .ok array ↔
      elements.Held values ∧ elements.array (values.map (·.map elements.narrow)) = array := by
  rcases elements.held_or_beyond values with held | ⟨before, n, after, rfl, held, beyond⟩
  · rw [held.extract_ok, Except.ok.injEq]
    exact (and_iff_right held).symm
  · rw [held.extract_error beyond]
    exact iff_of_false nofun fun ⟨all, _⟩ => beyond (all n (List.mem_append_right _ (.head _)))

/-- An array is refused for the first element that is not in range. -/
theorem extract_eq_error_iff {cause : Error} :
    ArrayValue.extract elements.type (.bigInt values) = .error cause ↔
      ∃ before n after, values = before ++ some n :: after ∧ elements.Held before ∧
        ¬ elements.type.Holds n.toInt ∧ cause = .elementRange before.length n.toInt elements.type := by
  constructor
  · intro refused
    rcases elements.held_or_beyond values with held | ⟨before, n, after, rfl, held, beyond⟩
    · rw [held.extract_ok] at refused
      contradiction
    · rw [held.extract_error beyond] at refused
      exact ⟨before, n, after, rfl, held, beyond, (Except.error.inj refused).symm⟩
  · rintro ⟨before, n, after, rfl, held, beyond, rfl⟩
    exact held.extract_error beyond after

theorem extract_bind (bound : List (Option α)) :
    ArrayValue.extract elements.type (ArrayValue.bind elements.type (elements.array bound)) =
      .ok (elements.array bound) := by
  have held : elements.Held (bound.map (·.map elements.widen)) := by
    intro n mem
    obtain ⟨value, _, widened⟩ := List.mem_map.mp mem
    obtain ⟨a, _, rfl⟩ := Option.map_eq_some_iff.mp widened
    exact elements.holds_widen a
  rw [elements.bind_array, held.extract_ok]
  simp [Function.comp_def, elements.narrow_widen]

theorem Held.widen_narrow (held : elements.Held values) :
    (values.map (·.map elements.narrow)).map (·.map elements.widen) = values := by
  have same : ∀ value ∈ values, (value.map elements.narrow).map elements.widen = value := by
    intro value mem
    cases value with
    | none => rfl
    | some n => exact congrArg some (elements.widen_narrow (held n mem))
  rw [List.map_map]
  exact (List.map_congr_left same).trans (List.map_id' values)

theorem bind_extract {array : ArrayValue}
    (extracted : ArrayValue.extract elements.type (.bigInt values) = .ok array) :
    ArrayValue.bind elements.type array = .bigInt values := by
  obtain ⟨held, rfl⟩ := extract_eq_ok_iff.mp extracted
  rw [elements.bind_array, held.widen_narrow]

/-! ### Reading -/

variable (elements) in
/-- An integer of the narrower type in JSON. -/
def ofJson? (value : Json) : Option α :=
  (value.intWithin? elements.least elements.greatest).map elements.ofInt

theorem ofJson?_eq_some_iff {value : Json} {a : α} :
    elements.ofJson? value = some a ↔
      ∃ n, value.int64? = some n ∧ elements.type.Holds n.toInt ∧ elements.narrow n = a := by
  rw [ofJson?, Option.map_eq_some_iff]
  constructor
  · rintro ⟨m, found, rfl⟩
    obtain ⟨rfl, within⟩ := Json.intWithin?_eq_some_iff.mp found
    have holds := (elements.holds_iff m).mpr within
    have same : (Int64.ofInt m).toInt = m := Int64.toInt_ofInt_of_le holds.wide.1 holds.wide.2
    exact ⟨.ofInt m, Json.int64?_eq_some_iff.mpr (congrArg Json.int same.symm), same.symm ▸ holds,
      elements.narrow_ofInt m⟩
  · rintro ⟨n, found, holds, rfl⟩
    obtain rfl := Json.int64?_eq_some_iff.mp found
    refine ⟨n.toInt, Json.intWithin?_eq_some_iff.mpr ⟨rfl, (elements.holds_iff _).mp holds⟩, ?_⟩
    rw [← elements.narrow_ofInt, n.ofInt_toInt]

theorem orNull?_eq_some_iff {value : Json} {read : Option α} :
    value.orNull? elements.ofJson? = some read ↔
      ∃ wide, value.orNull? Json.int64? = some wide ∧ (∀ n ∈ wide, elements.type.Holds n.toInt) ∧
        wide.map elements.narrow = read := by
  have number : (elements.ofJson? value).map some = some read ↔
      ∃ wide, value.int64?.map some = some wide ∧ (∀ n ∈ wide, elements.type.Holds n.toInt) ∧
        wide.map elements.narrow = read := by
    simp only [Option.map_eq_some_iff, ofJson?_eq_some_iff]
    constructor
    · rintro ⟨_, ⟨n, found, holds, rfl⟩, rfl⟩
      exact ⟨some n, ⟨n, found, rfl⟩, fun m mem => Option.mem_some.mp mem ▸ holds, rfl⟩
    · rintro ⟨_, ⟨n, found, rfl⟩, holds, rfl⟩
      exact ⟨_, ⟨n, found, holds n rfl, rfl⟩, rfl⟩
  by_cases null : value = .null
  · subst null
    constructor
    · intro same
      exact ⟨none, rfl, nofun, Option.some.inj same⟩
    · rintro ⟨_, found, _, rfl⟩
      cases found
      rfl
  · rw [Json.orNull?_of_ne_null null, Json.orNull?_of_ne_null null]
    exact number

theorem items_eq_some_iff {items : List Json} {read : List (Option α)} :
    items.mapM (Json.orNull? elements.ofJson?) = some read ↔
      ∃ values, items.mapM (Json.orNull? Json.int64?) = some values ∧ elements.Held values ∧
        values.map (·.map elements.narrow) = read := by
  induction items generalizing read with
  | nil => simp [Held, eq_comm]
  | cons item items ih =>
    simp only [List.mapM_cons, Option.bind_eq_bind, Option.bind_eq_some_iff, orNull?_eq_some_iff, ih]
    constructor
    · rintro ⟨_, ⟨wide, found, holds, rfl⟩, _, ⟨values, others, held, rfl⟩, same⟩
      cases same
      exact ⟨wide :: values, ⟨wide, found, values, others, rfl⟩, held_cons.mpr ⟨holds, held⟩, rfl⟩
    · rintro ⟨_, ⟨wide, found, values, others, same⟩, held, rfl⟩
      cases same
      obtain ⟨holds, held⟩ := held_cons.mp held
      exact ⟨_, ⟨wide, found, holds, rfl⟩, _, ⟨values, others, held, rfl⟩, rfl⟩

/-- A JSON array has elements of the narrower type where it has elements of 64 bits that are in range. -/
theorem elements?_eq_some_iff {value : Json} {read : List (Option α)} :
    ArrayValue.elements? elements.ofJson? value = some read ↔
      ∃ values, ArrayValue.elements? Json.int64? value = some values ∧ elements.Held values ∧
        values.map (·.map elements.narrow) = read := by
  cases value with
  | array items => exact items_eq_some_iff
  | null | bool | int | float | string | object | meaningless => exact iff_of_false nofun nofun

theorem parse_eq_ok_iff {text : String} {array : ArrayValue} :
    ArrayValue.parse elements.type text = .ok array ↔
      ∃ wide, ArrayValue.parse .bigInt text = .ok wide ∧ ArrayValue.extract elements.type wide = .ok array := by
  have own : ArrayValue.parse elements.type text = .ok array ↔
      ∃ read, ArrayValue.elements? elements.ofJson? ((Json.ofText? text).getD .meaningless) = some read ∧
        elements.array read = array := by
    rw [ArrayValue.parse_eq_ok_iff, elements.ofElements?_type, Except.ok.injEq, Option.map_eq_some_iff]
    rfl
  rw [own]
  constructor
  · rintro ⟨read, found, rfl⟩
    obtain ⟨values, wide, held, rfl⟩ := elements?_eq_some_iff.mp found
    exact ⟨.bigInt values, ArrayValue.parse_bigInt_eq_ok_iff.mpr ⟨values, wide, rfl⟩, held.extract_ok⟩
  · rintro ⟨_, parsed, extracted⟩
    obtain ⟨values, wide, rfl⟩ := ArrayValue.parse_bigInt_eq_ok_iff.mp parsed
    obtain ⟨held, rfl⟩ := extract_eq_ok_iff.mp extracted
    exact ⟨_, elements?_eq_some_iff.mpr ⟨values, wide, held, rfl⟩, rfl⟩

theorem of_isNarrowInteger {declared : SqlType} (isNarrow : declared.isNarrowInteger = true) :
    ∃ (α : Type) (elements : NarrowElements α), elements.type = declared := by
  cases declared with
  | tinyInt => exact ⟨_, tinyInt, rfl⟩
  | smallInt => exact ⟨_, smallInt, rfl⟩
  | integer => exact ⟨_, integer, rfl⟩
  | _ => contradiction

end NarrowElements

/-- Arrays of narrower integers are bound without loss, extracted where their elements are in range, and read
as those of 64 bits are. Anything else passes unchanged. -/
theorem ArrayValue.bind_extract_parse (declared : SqlType) :
    (declared.isNarrowInteger = true →
      (∀ array : ArrayValue, array.elementType = declared →
        (∃ values, bind declared array = .bigInt values ∧ array.integers? = some (values.map (·.map Int64.toInt))) ∧
          extract declared (bind declared array) = .ok array) ∧
      (∀ values,
        ((∃ cause, extract declared (.bigInt values) = .error cause) ↔
          ∃ n, some n ∈ values ∧ ¬ declared.Holds n.toInt) ∧
        (∀ cause, extract declared (.bigInt values) = .error cause ↔
          ∃ before n after, values = before ++ some n :: after ∧ (∀ m, some m ∈ before → declared.Holds m.toInt) ∧
            ¬ declared.Holds n.toInt ∧ cause = .elementRange before.length n.toInt declared) ∧
        ∀ array, extract declared (.bigInt values) = .ok array →
          array.elementType = declared ∧ bind declared array = .bigInt values) ∧
      ∀ text array, parse declared text = .ok array ↔
        ∃ wide, parse .bigInt text = .ok wide ∧ extract declared wide = .ok array) ∧
    ∀ array : ArrayValue, declared.isNarrowInteger = false ∨ array.integers? = none →
      bind declared array = array ∧ extract declared array = .ok array := by
  refine ⟨fun isNarrow => ?_, fun array => bind_extract_unchanged⟩
  obtain ⟨α, elements, rfl⟩ := NarrowElements.of_isNarrowInteger isNarrow
  refine ⟨fun array own => ?_, fun values => ⟨?_, fun cause => NarrowElements.extract_eq_error_iff, ?_⟩,
    fun text array => NarrowElements.parse_eq_ok_iff⟩
  · obtain ⟨bound, rfl⟩ := elements.array_of_elementType array own
    refine ⟨⟨_, elements.bind_array bound, ?_⟩, elements.extract_bind bound⟩
    simp [elements.integers?_array, Function.comp_def]
  · constructor
    · rintro ⟨cause, refused⟩
      obtain ⟨before, n, after, rfl, -, beyond, -⟩ := NarrowElements.extract_eq_error_iff.mp refused
      exact ⟨n, List.mem_append_right _ (.head _), beyond⟩
    · rintro ⟨n, mem, beyond⟩
      cases extracted : extract elements.type (.bigInt values) with
      | error cause => exact ⟨cause, rfl⟩
      | ok array => exact absurd ((NarrowElements.extract_eq_ok_iff.mp extracted).1 n mem) beyond
  · intro array extracted
    obtain ⟨_, rfl⟩ := NarrowElements.extract_eq_ok_iff.mp extracted
    exact ⟨elements.elementType_array _, NarrowElements.bind_extract extracted⟩

example : ArrayValue.extract .tinyInt (.bigInt [some 127, none, some 128]) =
    .error (.elementRange 2 128 .tinyInt) := rfl

end PortableSql
