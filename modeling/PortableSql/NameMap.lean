/-! Maps from names, in the order of the names' code points.

That order is also the order of their UTF-8 bytes. Two maps with the same look-ups are the same map,
because the order of the entries is part of the type. A set of names is a map to nothing.
-/

set_option autoImplicit false

namespace PortableSql

variable {α : Type}

/-- Entries in strictly increasing order of their names. -/
structure NameMap (α : Type) where
  entries : List (String × α)
  ordered : entries.Pairwise fun a b => a.1 < b.1

abbrev NameSet := NameMap Unit

namespace NameMap

def setEntry (name : String) (value : α) : List (String × α) → List (String × α)
  | [] => [(name, value)]
  | entry :: rest =>
    if name < entry.1 then (name, value) :: entry :: rest
    else if name = entry.1 then (name, value) :: rest
    else entry :: setEntry name value rest

theorem mem_setEntry {name : String} {value : α} {entries : List (String × α)}
    {entry : String × α} (h : entry ∈ setEntry name value entries) :
    entry = (name, value) ∨ entry ∈ entries := by
  induction entries with
  | nil => exact Or.inl (List.mem_singleton.1 h)
  | cons head rest ih =>
    unfold setEntry at h
    split at h
    · exact (List.mem_cons.1 h).imp_right id
    · split at h
      · exact (List.mem_cons.1 h).imp_right (List.mem_cons_of_mem _)
      · rcases List.mem_cons.1 h with rfl | h
        · exact Or.inr List.mem_cons_self
        · exact (ih h).imp_right (List.mem_cons_of_mem _)

theorem ordered_setEntry (name : String) (value : α) {entries : List (String × α)}
    (h : entries.Pairwise fun a b => a.1 < b.1) :
    (setEntry name value entries).Pairwise fun a b => a.1 < b.1 := by
  induction entries with
  | nil => exact List.pairwise_singleton ..
  | cons head rest ih =>
    obtain ⟨above, tail⟩ := List.pairwise_cons.1 h
    unfold setEntry
    split
    next less =>
      refine List.pairwise_cons.2 ⟨fun entry mem => ?_, h⟩
      rcases List.mem_cons.1 mem with rfl | mem
      · exact less
      · exact String.lt_trans less (above entry mem)
    next notLess =>
      split
      next same =>
        subst same
        exact List.pairwise_cons.2 ⟨above, tail⟩
      next different =>
        refine List.pairwise_cons.2 ⟨fun entry mem => ?_, ih tail⟩
        rcases mem_setEntry mem with rfl | mem
        · exact Std.lt_of_le_of_ne (String.not_lt.1 notLess) (Ne.symm different)
        · exact above entry mem

def empty : NameMap α := ⟨[], List.Pairwise.nil⟩

instance : Inhabited (NameMap α) := ⟨empty⟩

def insert (map : NameMap α) (name : String) (value : α) : NameMap α :=
  ⟨setEntry name value map.entries, ordered_setEntry name value map.ordered⟩

/-- The map of a list of entries, of which the last of one name counts. -/
def ofList (entries : List (String × α)) : NameMap α :=
  entries.foldl (fun map entry => map.insert entry.1 entry.2) empty

def find? (map : NameMap α) (name : String) : Option α :=
  (map.entries.find? fun entry => entry.1 == name).map Prod.snd

def names (map : NameMap α) : List String :=
  map.entries.map Prod.fst

theorem ext {left right : NameMap α} (h : left.entries = right.entries) : left = right := by
  cases left; cases right; cases h; rfl

end NameMap

def NameSet.add (set : NameSet) (name : String) : NameSet :=
  NameMap.insert set name ()

end PortableSql
