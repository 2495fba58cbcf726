/-! TOML values, and the tables that a document builds up.

A document is a list of sections. Each section has a header, except the first, and pairs of a key and
a value; keys and headers may be paths. What a path may pass through depends on how the tables on it
came to be: by a header of their own, on the way to another header, or by a dotted key.
-/

set_option autoImplicit false

namespace PortableSql

inductive Toml where
  | string (text : String)
  | integer (value : Int)
  | float (value : Float)
  | boolean (value : Bool)
  | moment (text : String)
  | array (items : List Toml)
  | table (fields : List (String × Toml))

namespace Toml

instance : Inhabited Toml := ⟨.table []⟩

abbrev Pair := List String × Toml

inductive Header where
  | root
  | table (path : List String)
  | element (path : List String)
  deriving DecidableEq, Repr

structure Section where
  header : Header
  pairs : List Pair

/-- How a table came to be. -/
inductive TableOrigin where
  -- By a header of its own, or as the root.
  | declared
  -- On the path of a header.
  | implied
  -- On the path of a dotted key.
  | dotted
  deriving DecidableEq, Repr

inductive Draft where
  | value (value : Toml)
  | table (origin : TableOrigin) (fields : List (String × Draft))
  -- An array of tables that headers add to, and its last table.
  | tables (earlier : List Draft) (last : Draft)

abbrev Fields := List (String × Draft)

namespace Draft

def find? (fields : Fields) (name : String) : Option Draft :=
  (fields.find? fun field => field.1 == name).map Prod.snd

def put (name : String) (draft : Draft) : Fields → Fields
  | [] => [(name, draft)]
  | field :: rest =>
    if field.1 = name then (name, draft) :: rest else field :: put name draft rest

/-- Change the table at the end of a path; tables that are not there come to be as `made`. A dotted
key does not pass through tables that have a header. -/
def descend (made : TableOrigin) (change : TableOrigin → Fields → Option Fields) :
    List String → TableOrigin → Fields → Option Fields
  | [], origin, fields => change origin fields
  | name :: path, _, fields =>
    match find? fields name with
    | none => (descend made change path made []).map fun inner =>
        put name (.table made inner) fields
    | some (.value _) => none
    | some (.table origin inner) =>
      if made = .dotted ∧ origin = .declared then none
      else (descend made change path origin inner).map fun inner =>
        put name (.table origin inner) fields
    | some (.tables earlier last) =>
      match last with
      | .table origin inner =>
        (descend made change path origin inner).map fun inner =>
          put name (.tables earlier (.table origin inner)) fields
      | _ => none

/-- Add a pair to a table. The key must be new, and a dotted key must end in a table of dotted keys
only. -/
def addPair (fields : Fields) (pair : Pair) : Option Fields :=
  match pair.1.getLast? with
  | none => none
  | some key =>
    let path := pair.1.dropLast
    descend .dotted
      (fun origin inner =>
        if (origin == .dotted) == path.isEmpty then none
        else if (find? inner key).isSome then none
        else some (inner ++ [(key, .value pair.2)]))
      path .declared fields

def addPairs (fields : Fields) (pairs : List Pair) : Option Fields :=
  pairs.foldlM addPair fields

/-- The table of a header, given what stands in its place: nothing, or a table that other headers
implied. -/
def openTable? : Option Draft → Option Fields
  | none => some []
  | some (.table .implied fields) => some fields
  | some _ => none

def pushTable? (element : Draft) : Option Draft → Option Draft
  | none => some (.tables [] element)
  | some (.tables earlier last) => some (.tables (earlier ++ [last]) element)
  | some _ => none

def atParent (path : List String) (change : String → Fields → Option Fields) (root : Fields) :
    Option Fields :=
  match path.getLast? with
  | none => none
  | some key => descend .implied (fun _ fields => change key fields) path.dropLast .declared root

def addSection (root : Fields) (part : Section) : Option Fields :=
  match part.header with
  | .root => addPairs root part.pairs
  | .table path =>
    root |> atParent path fun key fields => do
      let filled ← addPairs (← openTable? (find? fields key)) part.pairs
      return put key (.table .declared filled) fields
  | .element path =>
    root |> atParent path fun key fields => do
      let filled ← addPairs [] part.pairs
      return put key (← pushTable? (.table .declared filled) (find? fields key)) fields

mutual

def finish : Draft → Toml
  | .value content => content
  | .table _ fields => .table (finishFields fields)
  | .tables earlier last => .array (finishAll earlier ++ [finish last])

def finishFields : Fields → List (String × Toml)
  | [] => []
  | (name, draft) :: rest => (name, finish draft) :: finishFields rest

def finishAll : List Draft → List Toml
  | [] => []
  | draft :: rest => finish draft :: finishAll rest

end

end Draft

def ofSections? (sections : List Section) : Option Toml :=
  (sections.foldlM Draft.addSection []).map fun fields => .table (Draft.finishFields fields)

def ofPairs? (pairs : List Pair) : Option Toml :=
  (Draft.addPairs [] pairs).map fun fields => .table (Draft.finishFields fields)

end Toml

end PortableSql
