import PortableSql.Dialect
import PortableSql.SqlType

/-! Command lines: the commands, and the options and arguments they take. -/

set_option autoImplicit false

namespace PortableSql.CommandLine

def configVariable : String := "QAIL_SPANNER_CONFIG"

inductive OutputFormat where
  | sql
  | json
  deriving DecidableEq, Repr

def OutputFormat.ofName? : String → Option OutputFormat
  | "sql" => some .sql
  | "json" => some .json
  | _ => none

/-- What the program is to do. Input without a file is standard input. -/
inductive Command where
  | translate (file : Option String) (dialect : Dialect) (format : OutputFormat)
  | temporaryTable (file : Option String) (truncate drop : Bool)
  | bindArray (elementType : SqlType) (values : String)
  -- Print the configuration.
  | config
  deriving DecidableEq, Repr

structure Invocation where
  configFile : Option String
  verbose : Bool
  command : Command
  deriving DecidableEq, Repr

inductive CommandName where
  | translate
  | temporaryTable
  | bindArray
  | config
  deriving DecidableEq, Repr

inductive HelpTopic where
  | program
  | command (name : CommandName)
  | help
  deriving DecidableEq, Repr

inductive Halt where
  | help (topic : HelpTopic)
  | version
  | misuse
  deriving DecidableEq, Repr

inductive Setting where
  | configFile (path : String)
  | verbose
  | dialect (dialect : Dialect)
  | format (format : OutputFormat)
  | truncate
  | drop
  | elementType (type : SqlType)
  deriving DecidableEq, Repr

inductive Effect where
  | set (setting : Setting)
  -- Read a value; help shows its name.
  | value (name : String) (read : String → Option Setting)
  | help
  | version

structure Switch where
  word : String
  letter : Option Char
  effect : Effect
  explanation : String

namespace Switch

def configFile : Switch where
  word := "config"
  letter := some 'c'
  effect := .value "CONFIG" fun path => if path.isEmpty then none else some (.configFile path)
  explanation := "Dialect config file (TOML)"

def verbose : Switch := ⟨"verbose", some 'v', .set .verbose, "Verbose output"⟩

def help : Switch := ⟨"help", some 'h', .help, "Print help"⟩

def version : Switch := ⟨"version", some 'V', .version, "Print version"⟩

def dialect : Switch where
  word := "dialect"
  letter := some 'd'
  effect := .value "DIALECT" fun name => (Dialect.ofAnyCase? name).map .dialect
  explanation := "[default: spanner]"

def format : Switch where
  word := "format"
  letter := some 'f'
  effect := .value "FORMAT" fun name => (OutputFormat.ofName? name).map .format
  explanation := "[default: sql] [possible values: sql, json]"

def truncate : Switch :=
  ⟨"truncate", none, .set .truncate, "Also print the truncate statement"⟩

def drop : Switch := ⟨"drop", none, .set .drop, "Also print the drop statement"⟩

def elementType : Switch where
  word := "element-type"
  letter := some 'e'
  effect := .value "ELEMENT_TYPE" fun name => (SqlType.ofAnyCase? name).map .elementType
  explanation := ""

end Switch

inductive Operands where
  | command
  -- No more than one name of a file, which is not empty.
  | file
  | text
  | none
  deriving DecidableEq, Repr

def Operands.takes (before : Nat) (text : String) : Operands → Bool
  | .file => before = 0 && !text.isEmpty
  | .text => before = 0
  | .command | .none => false

/-- The words that may follow one another, options in the order of help. -/
structure Grammar where
  topic : HelpTopic
  switches : List Switch
  operands : Operands

def Grammar.program : Grammar where
  topic := .program
  switches := [.configFile, .verbose, .help, .version]
  operands := .command

namespace CommandName

def text : CommandName → String
  | .translate => "translate"
  | .temporaryTable => "temp-table"
  | .bindArray => "bind-array"
  | .config => "config"

def ofText? (text : String) : Option CommandName :=
  [translate, temporaryTable, bindArray, config].find? fun name => name.text == text

def switches : CommandName → List Switch
  | .translate => [.dialect, .format]
  | .temporaryTable => [.drop, .truncate]
  | .bindArray => [.elementType]
  | .config => []

def operands : CommandName → Operands
  | .translate | .temporaryTable => .file
  | .bindArray => .text
  | .config => .none

def grammar (name : CommandName) : Grammar where
  topic := .command name
  switches := [.configFile] ++ name.switches ++ [.verbose, .help]
  operands := name.operands

end CommandName

end PortableSql.CommandLine
