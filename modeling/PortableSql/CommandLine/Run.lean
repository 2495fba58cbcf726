import PortableSql.ArrayValue
import PortableSql.CommandLine.Help
import PortableSql.CommandLine.Reader
import PortableSql.Config.Discovery
import PortableSql.Form.Config
import PortableSql.Form.Decode
import PortableSql.Form.TemporaryTable
import PortableSql.Json.Printer
import PortableSql.Json.Reader
import PortableSql.Render.Statement

/-! What a command line does.

A run ends with a report, or asks for a file or the standard input and goes on with the answer. The
configuration comes first and the input next, so that of two faults the earlier one counts; in either
case nothing has been printed yet.
-/

set_option autoImplicit false

namespace PortableSql.CommandLine

structure Report where
  -- The exit status.
  status : Nat
  output : String
  complaint : Option String := none
  deriving DecidableEq, Repr

namespace Report

def success (output : String) : Report := ⟨0, output, none⟩

def failure (cause : Error) : Report :=
  ⟨1, "", some (cause.message?.getD "The input could not be read.")⟩

def ofHalt (environment : Option String) : Halt → Report
  | .help topic => success (topic.page environment).text
  | .version => success "qail-spanner 0.1.0\n"
  | .misuse => ⟨2, "", some "The command line could not be read; --help shows what it may say."⟩

def ofResult : Except Error String → Report
  | .ok output => success output
  | .error cause => failure cause

end Report

inductive Run where
  | done (report : Report)
  -- Ask for a file.
  | openFile (path : String) (next : FileState → Run)
  -- Ask for the standard input, which may be no text.
  | readInput (next : Option String → Run)

/-- What a run can find around it. -/
structure Surroundings where
  files : String → FileState
  input : Option String

def Run.report (around : Surroundings) : Run → Report
  | .done report => report
  | .openFile path next => (next (around.files path)).report around
  | .readInput next => (next around.input).report around

def lines (texts : List String) : String :=
  String.join (texts.map (· ++ "\n"))

def strategyName : LockStrategy → String
  | .none => "None"
  | .clause => "Clause"
  | .followOn => "FollowOn"

def bindingLine (binding : Binding) : String :=
  "  " ++ toString binding.position ++ " " ++ binding.name.getD "?" ++ " " ++ binding.sqlType.name

def details (rendering : Rendering) : List String :=
  (if rendering.bindings.isEmpty then []
    else "" :: "Parameters:" :: rendering.bindings.map bindingLine)
  ++ (if rendering.tables.names.isEmpty then []
    else "Affected tables:" :: rendering.tables.names.map ("  " ++ ·))
  ++ ["Lock strategy: " ++ strategyName rendering.lock]

def renderingText (format : OutputFormat) (verbose : Bool) (rendering : Rendering) : String :=
  match format with
  | .sql => lines (rendering.sql :: if verbose then details rendering else [])
  | .json => lines [rendering.toJson.pretty 0]

/-- The number of brackets that may be open in a statement. -/
def greatestDepth : Nat := 127

def decode {α : Type} (read : Json → Option α) (text : String) : Except Error α :=
  match (Json.ofText? text).bind read with
  | some value => .ok value
  | none => .error .json

def translate (config : Config) (dialect : Dialect) (format : OutputFormat) (verbose : Bool)
    (text : String) : Except Error String := do
  let statement ← decode (Form.statement greatestDepth) text
  return renderingText format verbose (← statement.render ⟨dialect, config⟩)

def temporaryTable (config : Config) (truncate drop : Bool) (text : String) :
    Except Error String := do
  let table ← decode TemporaryTable.ofJson? text
  let statements := [← table.createText config] ++ (if truncate then [table.truncateText] else [])
    ++ if drop then [table.dropText] else []
  return lines (statements.map (· ++ ";"))

def bindArray (elementType : SqlType) (values : String) : Except Error String := do
  let array ← ArrayValue.parse elementType values
  return lines ["Bound as: array<" ++ (ArrayValue.boundType elementType).name ++ ">",
    (array.bind elementType).toJson.compact]

namespace Run

def ofResult (result : Except Error String) : Run :=
  .done (.ofResult result)

def withInput (file : Option String) (next : String → Run) : Run :=
  let onward : Option String → Run
    | some text => next text
    | none => ofResult (.error .file)
  match file with
  | some path => .openFile path fun
    | .text content => onward (some content)
    | _ => onward none
  | none => .readInput onward

/-- Go on with the configuration of the file that is named, or else of the user's. -/
def withConfig (named user : Option String) (next : Config → Run) : Run :=
  let onward : Except Error Config → Run
    | .ok config => next config
    | .error cause => ofResult (.error cause)
  match named, user with
  | some path, _ => .openFile path fun state => onward (Config.ofNamedFile state)
  | none, some path => .openFile path fun state => onward (Config.ofUserFile state)
  | none, none => next .spanner

def ofInvocation (user : Option String) (invocation : Invocation) : Run :=
  withConfig invocation.configFile user fun config =>
    match invocation.command with
    | .translate file dialect format =>
      withInput file fun text => ofResult (translate config dialect format invocation.verbose text)
    | .temporaryTable file truncate drop =>
      withInput file fun text => ofResult (temporaryTable config truncate drop text)
    | .bindArray elementType values => ofResult (bindArray elementType values)
    | .config => ofResult (.ok config.fileText)

/-- The run of a command line, given the files that the environment and the user's directory name. -/
def ofWords (environment user : Option String) (words : List String) : Run :=
  match Invocation.ofWords environment words with
  | .ok invocation => ofInvocation user invocation
  | .error halt => .done (.ofHalt environment halt)

end Run

end PortableSql.CommandLine
