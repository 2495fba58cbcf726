import PortableSql.Proofs.TomlText

/-! Documents read back line by line.

A line is a pair of a name and a value, or a header. Each is read back in front of anything
(`Line.Spells.read`), and so are lines one after another (`Document.lines?`). The sections of a document are
then the pairs below each header, and fill the table of that header: pairs with new names come after the fields
of the table (`Draft.addPairs_singles`), and a header with a new name opens a table after those of the table
around it (`Draft.addSection_table`, `Draft.addSection_within`).
-/

set_option autoImplicit false

namespace PortableSql.Toml

open Text

/-- Whether a value is read from a text that the end of a line follows. -/
structure Reads (value : Toml) (text : List Char) : Prop where
  solid : ∃ head tail, text = head :: tail ∧ isGap head = false
  read (bound depth : Nat) (rest : List Char) :
    value? (bound + 1) depth (text ++ '\n' :: rest) = some (value, '\n' :: rest)

theorem Quoting.write_eq_cons (quoting : Quoting) (text : List Char) :
    ∃ mark tail, quoting.write text = mark :: tail ∧ (mark = '"' ∨ mark = '\'') := by
  cases quoting with
  | basic | longBasic => exact ⟨_, _, rfl, .inl rfl⟩
  | plain | longPlain => exact ⟨_, _, rfl, .inr rfl⟩

theorem textValue_reads (text : String) : Reads (.string text) (textValue text) := by
  obtain ⟨mark, tail, split, quote⟩ : ∃ mark tail, textValue text = mark :: tail ∧ (mark = '"' ∨ mark = '\'') :=
    Quoting.write_eq_cons _ _
  constructor
  · refine ⟨mark, tail, split, ?_⟩
    rcases quote with rfl | rfl <;> rfl
  · intro bound depth rest
    have read := string?_textValue text ('\n' :: rest) (by simp) (by simp)
    rw [split, List.cons_append] at read ⊢
    rcases quote with rfl | rfl <;> simp [value?, read]

theorem booleanValue_reads (value : Bool) : Reads (.boolean value) (booleanValue value) := by
  cases value with
  | true => exact ⟨⟨_, _, rfl, rfl⟩, fun bound depth rest => by simp [booleanValue, value?]; rfl⟩
  | false => exact ⟨⟨_, _, rfl, rfl⟩, fun bound depth rest => by simp [booleanValue, value?]; rfl⟩

theorem lineEnd?_line (rest : List Char) : lineEnd? ('\n' :: rest) = some rest := rfl

theorem key?_names {path : List String} (inhabited : path ≠ []) (fits : path.length ≤ greatestDepth)
    (rest : List Char) (ended : ∀ c ∈ rest.head?, isKeyChar c = false) (last : (skipGap rest).head? ≠ some '.') :
    key? (List.intercalate ['.'] (path.map key) ++ rest) = some (path, skipGap rest) := by
  have read := keyParts?_names inhabited (Nat.le_succ_of_le fits) ended last
  rw [key?, read]
  simp [fits]

/-- The text of a line. -/
inductive Line.Spells : Line → List Char → Prop
  | pair (name : String) {value : Toml} {text : List Char} (reads : Reads value text) :
    Line.Spells (.pair ([name], value)) (pairLine name text)
  | header {path : List String} (inhabited : path ≠ []) (fits : path.length ≤ greatestDepth) :
    Line.Spells (.header (.table path)) (headerLine path)

theorem skipLayout_key (name : String) (rest : List Char) :
    skipLayout false (key name ++ rest) = some (key name ++ rest) := by
  obtain ⟨head, tail, split, begins⟩ := key_eq_cons name
  have line : head ≠ '\n' := ne_of_beginsKey begins rfl
  have carriage : head ≠ '\r' := ne_of_beginsKey begins rfl
  have comment : head ≠ '#' := ne_of_beginsKey begins rfl
  rw [split, List.cons_append, skipLayout, isGap_of_beginsKey begins]
  · rfl
  · exact line
  · exact fun _ same _ => carriage same
  · exact comment

theorem line?_pair (name : String) {value : Toml} {text : List Char} (reads : Reads value text) (rest : List Char) :
    line? (pairLine name text ++ rest) = some (.pair ([name], value), rest) := by
  obtain ⟨first, others, same, solid⟩ := reads.solid
  have value : skipGap (' ' :: (text ++ '\n' :: rest)) = text ++ '\n' :: rest := by
    rw [same]
    exact skipGap_cons solid _
  have inhabited : [name] ≠ [] := List.cons_ne_nil _ _
  have named := key?_names inhabited (show 1 ≤ greatestDepth by decide)
    (' ' :: '=' :: ' ' :: (text ++ '\n' :: rest)) (fun c mem => by cases mem; rfl) nofun
  have equals : skipGap (' ' :: '=' :: ' ' :: (text ++ '\n' :: rest)) = '=' :: ' ' :: (text ++ '\n' :: rest) := rfl
  rw [List.map_cons, List.map_nil, List.intercalate_singleton, equals] at named
  obtain ⟨head, tail, split, begins⟩ := key_eq_cons name
  have bracket : head ≠ '[' := ne_of_beginsKey begins rfl
  simp only [pairLine, List.append_assoc, List.cons_append, List.nil_append]
  rw [split, List.cons_append] at named ⊢
  simp [line?, bracket, named, after?, value, reads.read, lineEnd?_line]

theorem line?_header {path : List String} (inhabited : path ≠ []) (fits : path.length ≤ greatestDepth)
    (rest : List Char) :
    line? ('[' :: (List.intercalate ['.'] (path.map key) ++ ']' :: '\n' :: rest)) =
      some (.header (.table path), rest) := by
  have named := key?_names inhabited fits (']' :: '\n' :: rest) (fun c mem => by cases mem; rfl) nofun
  have closing : skipGap (']' :: '\n' :: rest) = ']' :: '\n' :: rest := rfl
  rw [closing] at named
  obtain ⟨name, others, rfl⟩ := List.exists_cons_of_ne_nil inhabited
  obtain ⟨head, tail, split, begins⟩ := key_eq_cons name
  have bracket : head ≠ '[' := ne_of_beginsKey begins rfl
  obtain ⟨more, first⟩ : ∃ more, List.intercalate ['.'] ((name :: others).map key) = head :: more := by
    cases others with
    | nil => exact ⟨tail, by rw [List.map_cons, List.map_nil, List.intercalate_singleton, split]⟩
    | cons next others => exact ⟨_, by rw [List.map_cons, List.map_cons, List.intercalate_cons_cons, split]; rfl⟩
  rw [first, List.cons_append] at named ⊢
  simp [line?, bracket, named, after?, lineEnd?_line]

/-- A line is read in front of anything, once the layout before it is passed over. -/
theorem Line.Spells.read {line : Line} {text : List Char} (spells : line.Spells text) (rest : List Char) :
    ∃ first others, skipLayout false (text ++ rest) = some (first :: others) ∧
      line? (first :: others) = some (line, rest) := by
  cases spells with
  | @pair name value text reads =>
    have start := skipLayout_key name (' ' :: '=' :: ' ' :: (text ++ '\n' :: rest))
    have read := line?_pair name reads rest
    obtain ⟨head, tail, split, -⟩ := key_eq_cons name
    simp only [pairLine, List.append_assoc, List.cons_append, List.nil_append] at read ⊢
    rw [split, List.cons_append] at start read ⊢
    exact ⟨_, _, start, read⟩
  | header inhabited fits =>
    refine ⟨_, _, ?_, line?_header inhabited fits rest⟩
    simp [headerLine, skipLayout, isGap]

theorem Line.Spells.length_pos {line : Line} {text : List Char} (spells : line.Spells text) : 0 < text.length := by
  cases spells with
  | pair =>
    simp only [pairLine, List.length_append, List.length_cons]
    omega
  | header =>
    simp only [headerLine, List.length_append, List.length_cons]
    omega

/-- A text of lines one after another. -/
inductive Document : List Line → List Char → Prop
  | nil : Document [] []
  | cons {line : Line} {lines : List Line} {text rest : List Char} (spells : line.Spells text)
    (document : Document lines rest) : Document (line :: lines) (text ++ rest)

namespace Document

theorem append {first second : List Line} {text rest : List Char} (head : Document first text)
    (tail : Document second rest) : Document (first ++ second) (text ++ rest) := by
  induction head with
  | nil => exact tail
  | cons spells _ ih =>
    rw [List.cons_append, List.append_assoc]
    exact ih.cons spells

theorem line {line : Line} {text : List Char} (spells : line.Spells text) : Document [line] text := by
  have single := Document.nil.cons spells
  rwa [List.append_nil] at single

theorem pairs {α : Type} {elements : List α} {name : α → String} {value : α → Toml} {text : α → List Char}
    (reads : ∀ a ∈ elements, Reads (value a) (text a)) :
    Document (elements.map fun a => .pair ([name a], value a))
      (elements.flatMap fun a => pairLine (name a) (text a)) := by
  induction elements with
  | nil => exact .nil
  | cons a rest ih =>
    obtain ⟨own, others⟩ := List.forall_mem_cons.mp reads
    rw [List.map_cons, List.flatMap_cons]
    exact (ih others).cons (.pair _ own)

theorem lines? {lines : List Line} {text : List Char} (document : Document lines text) {bound : Nat}
    (fits : text.length < bound) : Toml.lines? bound text = some lines := by
  induction document generalizing bound with
  | nil =>
    cases bound with
    | zero => contradiction
    | succ bound => rfl
  | @cons line lines text rest spells _ ih =>
    cases bound with
    | zero => contradiction
    | succ bound =>
      obtain ⟨first, others, start, read⟩ := spells.read rest
      have shorter := spells.length_pos
      rw [List.length_append] at fits
      simp [Toml.lines?, start, read, ih (show _ < bound by omega)]

end Document

/-- Pairs fall into the section of the header above them. -/
theorem sections_pairs (header : Header) (pairs : List Pair) (rest : List Line) :
    sections header (pairs.map .pair ++ rest) =
      match sections header rest with
      | first :: others => { first with pairs := pairs ++ first.pairs } :: others
      | [] => [] := by
  induction pairs with
  | nil =>
    rw [List.map_nil, List.nil_append]
    cases sections header rest <;> rfl
  | cons pair pairs ih =>
    rw [List.map_cons, List.cons_append, sections, ih]
    cases sections header rest <;> rfl

def Section.lines (part : Section) : List Line :=
  .header part.header :: part.pairs.map .pair

theorem sections_lines (header : Header) (pairs : List Pair) (parts : List Section) :
    sections header (pairs.map .pair ++ parts.flatMap Section.lines) = ⟨header, pairs⟩ :: parts := by
  induction parts generalizing header pairs with
  | nil => simpa [sections] using sections_pairs header pairs []
  | cons part parts ih => simp [sections_pairs, Section.lines, sections, ih]

/-- A field as a pair of its own. -/
def single (field : String × Toml) : Pair :=
  ([field.1], field.2)

namespace Draft

def ofField (field : String × Toml) : String × Draft :=
  (field.1, .value field.2)

variable {fields inner : Fields} {name outer : String}

theorem find?_append (before after : Fields) (name : String) :
    find? (before ++ after) name = (find? before name).or (find? after name) := by
  rw [find?, find?, find?, List.find?_append]
  cases before.find? fun field => field.1 == name <;> rfl

theorem find?_cons_self (name : String) (draft : Draft) (fields : Fields) :
    find? ((name, draft) :: fields) name = some draft := by
  simp [find?]

theorem put_fresh (fresh : find? fields name = none) (draft : Draft) :
    put name draft fields = fields ++ [(name, draft)] := by
  induction fields with
  | nil => rfl
  | cons field fields ih =>
    obtain ⟨other, later⟩ : field.1 ≠ name ∧ find? fields name = none := by simpa [find?] using fresh
    rw [put, if_neg other, ih later, List.cons_append]

theorem put_append (fresh : find? fields name = none) (draft new : Draft) (later : Fields) :
    put name new (fields ++ (name, draft) :: later) = fields ++ (name, new) :: later := by
  induction fields with
  | nil => simp [put]
  | cons field fields ih =>
    obtain ⟨other, later⟩ : field.1 ≠ name ∧ find? fields name = none := by simpa [find?] using fresh
    rw [List.cons_append, put, if_neg other, ih later, List.cons_append]

theorem addPair_single (field : String × Toml) (fresh : find? fields field.1 = none) :
    addPair fields (single field) = some (fields ++ [ofField field]) := by
  simp [addPair, single, descend, fresh, ofField]

theorem addPairs_singles (pairs : List (String × Toml)) (distinct : (pairs.map Prod.fst).Nodup)
    (fresh : ∀ field ∈ pairs, find? fields field.1 = none) :
    addPairs fields (pairs.map single) = some (fields ++ pairs.map ofField) := by
  induction pairs generalizing fields with
  | nil => simp [addPairs]
  | cons field pairs ih =>
    obtain ⟨own, others⟩ := List.forall_mem_cons.mp fresh
    obtain ⟨apart, distinct⟩ := List.nodup_cons.mp distinct
    have after (other : String × Toml) (mem : other ∈ pairs) :
        find? (fields ++ [ofField field]) other.1 = none := by
      have differs : field.1 ≠ other.1 := fun same => apart (List.mem_map.mpr ⟨other, mem, same.symm⟩)
      rw [find?_append, others other mem]
      simp [find?, ofField, differs]
    have rest := ih distinct after
    rw [addPairs] at rest ⊢
    rw [List.map_cons, List.foldlM_cons, addPair_single field own, Option.bind_eq_bind, Option.bind_some, rest]
    simp

theorem addPairs_fields {pairs : List (String × Toml)} (distinct : (pairs.map Prod.fst).Nodup) :
    addPairs [] (pairs.map single) = some (pairs.map ofField) :=
  addPairs_singles pairs distinct fun _ _ => rfl

theorem addSection_table {pairs : List (String × Toml)} (fresh : find? fields name = none)
    (distinct : (pairs.map Prod.fst).Nodup) :
    addSection fields ⟨.table [name], pairs.map single⟩ =
      some (fields ++ [(name, .table .declared (pairs.map ofField))]) := by
  simp [addSection, atParent, descend, fresh, openTable?, addPairs_fields distinct, put_fresh fresh]

theorem addSection_within {pairs : List (String × Toml)} (origin : TableOrigin) (apart : find? fields outer = none)
    (fresh : find? inner name = none) (distinct : (pairs.map Prod.fst).Nodup) :
    addSection (fields ++ [(outer, .table origin inner)]) ⟨.table [outer, name], pairs.map single⟩ =
      some (fields ++ [(outer, .table origin (inner ++ [(name, .table .declared (pairs.map ofField))]))]) := by
  have found : find? (fields ++ [(outer, .table origin inner)]) outer = some (.table origin inner) := by
    rw [find?_append, apart, find?_cons_self, Option.none_or]
  simp [addSection, atParent, descend, found, fresh, openTable?, addPairs_fields distinct, put_fresh fresh,
    put_append apart]

theorem finishFields_ofField (pairs : List (String × Toml)) : finishFields (pairs.map ofField) = pairs := by
  induction pairs with
  | nil => rfl
  | cons field pairs ih => rw [List.map_cons, ofField, finishFields, finish, ih]

theorem finishFields_append (before after : Fields) :
    finishFields (before ++ after) = finishFields before ++ finishFields after := by
  induction before with
  | nil => rfl
  | cons field before ih => rw [List.cons_append, finishFields, finishFields, ih, List.cons_append]

end Draft

end PortableSql.Toml
