import PortableSql.Config.File

/-! Where a configuration comes from.

A file that is named has to be there: first one named by the caller, then one named by the
environment. Without either, the user's file counts if there is one, and otherwise the configuration is
the one for Spanner.
-/

set_option autoImplicit false

namespace PortableSql

inductive FileState where
  | missing
  -- Something is there, but it is no text.
  | unreadable
  | text (content : String)
  deriving DecidableEq, Repr

namespace Config

def userPath : String := "qail/spanner.toml"

def ofNamedFile : FileState → Except Error Config
  | .text content => ofFileText content
  | .missing | .unreadable => .error .file

def ofUserFile : FileState → Except Error Config
  | .missing => .ok spanner
  | state => ofNamedFile state

/-- The configuration to use, from the files that the caller and the environment name and the one of
the user. -/
def discover (caller environment : Option FileState) (user : FileState) : Except Error Config :=
  match caller.or environment with
  | some state => ofNamedFile state
  | none => ofUserFile user

end Config

end PortableSql
