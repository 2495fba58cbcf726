import PortableSql.CommandLine

/-! Reading command lines.

Words are read from left to right, and the first one that ends the reading counts. A word with two
hyphens names an option, a word with one hyphen is a row of letters of options; the value of an option
follows it in the same word or is the next one. After a word of two hyphens only, all words are
arguments. No option may be given twice at the same place.

A value that is a word of its own is looked at when the next option is read at the same place, or at
the end of all words. So help on a command comes before a fault of the value just before its name.
-/

set_option autoImplicit false

namespace PortableSql.CommandLine

inductive Word where
  | separator
  | long (name : String) (value : Option String)
  | letters (letters : List Char)
  | operand (text : String)
  deriving DecidableEq, Repr

def Word.ofText (text : String) : Word :=
  match text.toList with
  | ['-', '-'] => .separator
  | '-' :: '-' :: rest =>
    let name := rest.takeWhile (· != '=')
    match rest.drop name.length with
    | [] => .long (String.ofList name) none
    | _ :: value => .long (String.ofList name) (some (String.ofList value))
  | '-' :: c :: rest => .letters (c :: rest)
  | _ => .operand text

structure Given where
  -- Settings with the words of their options.
  settings : List (String × Setting) := []
  arguments : List String := []
  -- An option with its value that has not been looked at.
  pending : Option (Switch × String) := none

namespace Given

def set (given : Given) (switch : Switch) (setting : Setting) : Except Halt Given :=
  if given.settings.any fun known => known.1 == switch.word then .error .misuse
  else .ok { given with settings := given.settings ++ [(switch.word, setting)] }

def setValue (given : Given) (switch : Switch) (text : String) : Except Halt Given :=
  match switch.effect with
  | .value _ read => match read text with
    | some setting => given.set switch setting
    | none => .error .misuse
  | _ => .error .misuse

def settle (given : Given) : Except Halt Given :=
  match given.pending with
  | none => .ok given
  | some (switch, text) => { given with pending := none }.setValue switch text

def argument (given : Given) (operands : Operands) (text : String) : Except Halt Given :=
  if operands.takes given.arguments.length text then
    .ok { given with arguments := given.arguments ++ [text] }
  else .error .misuse

def find? {α : Type} (given : Given) (pick : Setting → Option α) : Option α :=
  given.settings.findSome? fun known => pick known.2

def configFile (given : Given) : Option String :=
  given.find? fun
    | .configFile path => some path
    | _ => none

def verbose (given : Given) : Bool :=
  given.settings.any fun known => known.2 = .verbose

end Given

namespace Grammar

/-- Read an option by its word; an option that waits for its value comes second. -/
def readLong (grammar : Grammar) (given : Given) (name : String) (value : Option String) :
    Except Halt (Given × Option Switch) :=
  match grammar.switches.find? fun switch => switch.word == name with
  | none => .error .misuse
  | some switch =>
    match switch.effect, value with
    | .value _ _, some text => return (← given.setValue switch text, none)
    | .value _ _, none => .ok (given, some switch)
    | .set setting, none => return (← given.set switch setting, none)
    | .help, none => .error (.help grammar.topic)
    | .version, none => .error .version
    | _, some _ => .error .misuse

/-- Read a row of letters; an option that waits for its value comes second. The rest of the row after
an option with a value is the value, with an optional sign of equality before it. -/
def readLetters (grammar : Grammar) (given : Given) :
    List Char → Except Halt (Given × Option Switch)
  | [] => .ok (given, none)
  | letter :: rest =>
    match grammar.switches.find? fun switch => switch.letter == some letter with
    | none => .error .misuse
    | some switch =>
      match switch.effect, rest with
      | .value _ _, [] => .ok (given, some switch)
      | .value _ _, '=' :: text => return (← given.setValue switch (String.ofList text), none)
      | .value _ _, text => return (← given.setValue switch (String.ofList text), none)
      | .help, _ => .error (.help grammar.topic)
      | .version, _ => .error .version
      | .set setting, rest => do readLetters grammar (← given.set switch setting) rest

def read (grammar : Grammar) (given : Given) : List String → Except Halt (Given × List String)
  | [] => .ok (given, [])
  | word :: rest =>
    match Word.ofText word, grammar.operands with
    | .separator, .command => .error .misuse
    | .separator, operands => return (← rest.foldlM (Given.argument · operands) given, [])
    | .operand _, .command => .ok (given, word :: rest)
    | .operand text, operands => do read grammar (← given.argument operands text) rest
    | .long name value, _ => do
      let (given, waiting) ← grammar.readLong (← given.settle) name value
      afterOption given waiting rest
    | .letters letters, _ => do
      let (given, waiting) ← grammar.readLetters (← given.settle) letters
      afterOption given waiting rest
where
  afterOption (given : Given) (waiting : Option Switch) (words : List String) :
      Except Halt (Given × List String) :=
    match waiting, words with
    | none, rest => read grammar given rest
    | some _, [] => .error .misuse
    | some switch, word :: rest =>
      match Word.ofText word with
      | .operand text => read grammar { given with pending := some (switch, text) } rest
      | _ => .error .misuse

end Grammar

def CommandName.command (name : CommandName) (given : Given) : Except Halt Command :=
  match name with
  | .translate =>
    let dialect := given.find? fun
      | .dialect dialect => some dialect
      | _ => none
    let format := given.find? fun
      | .format format => some format
      | _ => none
    .ok (.translate given.arguments.head? (dialect.getD .spanner) (format.getD .sql))
  | .temporaryTable =>
    let has (setting : Setting) : Bool := given.settings.any fun known => known.2 = setting
    .ok (.temporaryTable given.arguments.head? (has .truncate) (has .drop))
  | .bindArray =>
    let elementType := given.find? fun
      | .elementType type => some type
      | _ => none
    match elementType, given.arguments with
    | some type, values :: _ => .ok (.bindArray type values)
    | _, _ => .error .misuse
  | .config => .ok .config

def helpOn : List String → Halt
  | [] => .help .program
  | ["help"] => .help .help
  | [name] => match CommandName.ofText? name with
    | some name => .help (.command name)
    | none => .misuse
  | _ => .misuse

/-- The configuration file that is named after the command, before it, or by the environment. The
environment has to name one wherever the command line does not. -/
def namedFile (environment : Option String) (program command : Given) :
    Except Halt (Option String) :=
  match program.configFile, command.configFile with
  | some _, some path => .ok (some path)
  | path, path' =>
    if environment = some "" then .error .misuse else .ok ((path'.or path).or environment)

/-- The meaning of a command line, given the configuration file that the environment names. -/
def Invocation.ofWords (environment : Option String) (words : List String) :
    Except Halt Invocation := do
  let (program, rest) ← Grammar.program.read {} words
  match rest with
  | [] => throw .misuse
  | word :: rest =>
    if word = "help" then throw (helpOn rest)
    match CommandName.ofText? word with
    | none => throw .misuse
    | some name =>
      let (given, _) ← name.grammar.read {} rest
      let given ← given.settle
      let command ← name.command given
      let program ← program.settle
      return ⟨← namedFile environment program given, program.verbose || given.verbose, command⟩

end PortableSql.CommandLine
