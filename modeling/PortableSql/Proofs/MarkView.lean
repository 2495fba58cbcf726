import PortableSql.Proofs.SessionCalls

/-! What is read off marks that follow others.

Parameters are numbered on from those before them, the tables are those that are noted anywhere, and a
choice of a lock strategy takes the place of the choices before it. A set of tables is known by its
members (`NameSet.ext_names`).
-/

set_option autoImplicit false

namespace PortableSql

/-- The names of a map are in strictly increasing order. -/
theorem NameMap.ordered_names {α : Type} (map : NameMap α) : map.names.Pairwise (· < ·) :=
  List.pairwise_map.mpr map.ordered

/-- Sets with the same members are the same set. -/
theorem NameSet.ext_names {first second : NameSet} (same : ∀ name, name ∈ first.names ↔ name ∈ second.names) :
    first = second := by
  have irreflexive (name : String) : ¬ name < name := String.lt_irrefl name
  have names : first.names = second.names := by
    have nodup (set : NameSet) : set.names.Nodup :=
      set.ordered_names.imp fun {a b} (less : a < b) (same : a = b) => irreflexive b (same ▸ less)
    have permuted : first.names.Perm second.names :=
      (List.perm_ext_iff_of_nodup (nodup first) (nodup second)).mpr same
    exact permuted.eq_of_pairwise (fun a b _ _ less greater => absurd (String.lt_trans less greater) (irreflexive a))
      first.ordered_names second.ordered_names
  have units (set : NameSet) : set.entries = set.names.map (·, ()) := by
    rw [NameMap.names, List.map_map]
    exact (List.map_id _).symm
  exact NameMap.ext (by rw [units, units, names])

/-- Parameters as bindings, numbered on from a number of bindings before them. -/
def Binding.numbered (count : Nat) (parameters : List Parameter) : List Binding :=
  (parameters.zipIdx count).map fun (parameter, index) => ⟨index + 1, parameter.name, parameter.sqlType⟩

theorem Binding.length_numbered (count : Nat) (parameters : List Parameter) :
    (numbered count parameters).length = parameters.length := by
  rw [numbered, List.length_map, List.length_zipIdx]

theorem Binding.numbered_append (count : Nat) (first second : List Parameter) :
    numbered count (first ++ second) = numbered count first ++ numbered (count + first.length) second := by
  rw [numbered, List.zipIdx_append, List.map_append]
  rfl

namespace Mark

theorem mem_tables {marks : List Mark} {name : String} :
    name ∈ (tables marks).names ↔ name ∈ marks.filterMap table? := by
  have empty : name ∉ (NameMap.empty : NameSet).names := List.not_mem_nil
  rw [tables, NameSet.mem_names_foldl_add, or_iff_right empty]

theorem mem_filterMap_table? {marks : List Mark} {name : String} :
    name ∈ marks.filterMap table? ↔ .table name ∈ marks := by
  rw [List.mem_filterMap]
  constructor
  · rintro ⟨mark, mem, same⟩
    cases mark with
    | table => exact Option.some.inj same ▸ mem
    | text | literal | placeholder | lock | offer => contradiction
  · exact fun mem => ⟨_, mem, rfl⟩

/-- The names and types of the bindings are those of the placeholders. -/
theorem mem_bindings {marks : List Mark} {name : Option String} {sqlType : SqlType} :
    (name, sqlType) ∈ (bindings marks).map (fun binding => (binding.name, binding.sqlType)) ↔
      .placeholder ⟨name, sqlType⟩ ∈ marks := by
  have pairs : (bindings marks).map (fun binding => (binding.name, binding.sqlType)) =
      (parameters marks).map fun parameter => (parameter.name, parameter.sqlType) := by
    rw [bindings, List.map_map]
    show (parameters marks).zipIdx.map ((fun parameter => (parameter.name, parameter.sqlType)) ∘ Prod.fst) = _
    rw [← List.map_map, List.zipIdx_map_fst]
  have placed {parameter : Parameter} : parameter ∈ parameters marks ↔ .placeholder parameter ∈ marks := by
    rw [parameters, List.mem_filterMap]
    constructor
    · rintro ⟨mark, mem, same⟩
      cases mark with
      | placeholder => exact Option.some.inj same ▸ mem
      | text | literal | table | lock | offer => contradiction
    · exact fun mem => ⟨_, mem, rfl⟩
  rw [pairs, ← placed, List.mem_map]
  constructor
  · rintro ⟨parameter, mem, same⟩
    cases same
    exact mem
  · exact fun mem => ⟨_, mem, rfl⟩

end Mark

end PortableSql
