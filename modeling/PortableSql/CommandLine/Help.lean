import PortableSql.CommandLine

/-! Help pages: what a command line may say.

A page has a line on its subject, a line on the order of words, and lists of entries, each with its
explanation. All explanations of a list start in one column, also those that are empty.
-/

set_option autoImplicit false

namespace PortableSql.CommandLine

structure HelpList where
  title : String
  entries : List (String × String)
  deriving DecidableEq, Repr

namespace HelpList

def width (list : HelpList) : Nat :=
  list.entries.foldl (fun width entry => max width entry.1.length) 0

/-- An entry with its explanation, which starts behind the widest entry. -/
def line (width : Nat) (entry : String × String) : String :=
  let fill := String.ofList (List.replicate (width - entry.1.length) ' ')
  "  " ++ entry.1 ++ fill ++ "  " ++ entry.2 ++ "\n"

def text (list : HelpList) : String :=
  list.title ++ ":\n" ++ String.join (list.entries.map (line list.width))

end HelpList

structure HelpPage where
  subject : String
  usage : String
  lists : List HelpList
  closing : String := ""
  deriving DecidableEq, Repr

def HelpPage.text (page : HelpPage) : String :=
  page.subject ++ "\n\nUsage: qail-spanner " ++ page.usage ++ "\n"
    ++ String.join (page.lists.map fun list => "\n" ++ list.text) ++ page.closing

namespace Switch

def usage (switch : Switch) : String :=
  "--" ++ switch.word ++ match switch.effect with
    | .value name _ => " <" ++ name ++ ">"
    | _ => ""

def helpEntry (environment : Option String) (switch : Switch) : String × String :=
  let letter := match switch.letter with
    | some letter => "-" ++ letter.toString ++ ", "
    | none => "    "
  let standIn := match switch.word with
    | "config" => " [env: " ++ configVariable ++ "=" ++ environment.getD "" ++ "]"
    | _ => ""
  (letter ++ switch.usage, switch.explanation ++ standIn)

end Switch

def Grammar.helpList (environment : Option String) (grammar : Grammar) : HelpList where
  title := "Options"
  entries := grammar.switches.map (Switch.helpEntry environment)

namespace CommandName

def subject : CommandName → String
  | .translate => "Translate a JSON statement (file or stdin)"
  | .temporaryTable => "Create statement for a JSON temporary table descriptor"
  | .bindArray => "Show how an array parameter is bound"
  | .config => "Print the effective dialect configuration"

def argument? : CommandName → Option (String × String)
  | .translate | .temporaryTable => some ("[FILE]", "")
  | .bindArray => some ("<VALUES>", "JSON array of elements")
  | .config => none

def required : CommandName → List Switch
  | .bindArray => [.elementType]
  | _ => []

def usage (name : CommandName) : String :=
  " ".intercalate ([name.text, "[OPTIONS]"] ++ name.required.map Switch.usage
    ++ name.argument?.toList.map Prod.fst)

end CommandName

namespace HelpTopic

/-- What help is there for, in a list of commands and on its own page. -/
def helpSubject : String := "Print this message or the help of the given subcommand(s)"

def commands : HelpList where
  title := "Commands"
  entries := [CommandName.translate, .temporaryTable, .bindArray, .config].map
      (fun name => (name.text, name.subject))
    ++ [("help", helpSubject)]

def examples : String :=
  "\nEXAMPLES:\n" ++ String.join ([
    "translate stmt.json",
    "translate --dialect generic --format json < stmt.json",
    "temp-table ht_person.json --drop",
    "bind-array --element-type integer '[1, null, 3]'"].map
      fun words => "    qail-spanner " ++ words ++ "\n")

def page (environment : Option String) : HelpTopic → HelpPage
  | .program => {
      subject := "Portable SQL statements rendered for Cloud Spanner"
      usage := "[OPTIONS] <COMMAND>"
      lists := [commands, Grammar.program.helpList environment]
      closing := examples }
  | .command name => {
      subject := name.subject
      usage := name.usage
      lists := (name.argument?.map fun entry => ⟨"Arguments", [entry]⟩).toList
        ++ [name.grammar.helpList environment] }
  | .help => {
      subject := helpSubject
      usage := "help [COMMAND]..."
      lists := [⟨"Arguments", [("[COMMAND]...", "Print help for the subcommand(s)")]⟩] }

end HelpTopic

end PortableSql.CommandLine
