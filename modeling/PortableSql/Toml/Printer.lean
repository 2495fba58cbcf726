import PortableSql.Toml.Reader

/-! Writing TOML documents line by line.

A text can be quoted in four ways, and the first that needs no escapes is taken: double quotes, single
quotes, and then three of the one or of the other, which also stand around several lines. A text that
needs escapes in any case stands in double quotes, one or three of them. Tabs do not count as needing
an escape, though they are written as one.
-/

set_option autoImplicit false

namespace PortableSql.Toml

def hexDigits (n : Nat) : List Char :=
  [n / 4096, n / 256 % 16, n / 16 % 16, n % 16].map fun digit => (Nat.digitChar digit).toUpper

def escapeChar (c : Char) : List Char :=
  if c = '"' then ['\\', '"']
  else if c = '\\' then ['\\', '\\']
  else if c = '\x08' then ['\\', 'b']
  else if c = '\t' then ['\\', 't']
  else if c = '\n' then ['\\', 'n']
  else if c = '\x0c' then ['\\', 'f']
  else if c = '\r' then ['\\', 'r']
  else if isPlain c then [c]
  else '\\' :: 'u' :: hexDigits c.toNat

/-- A text as it stands between three double quotes, after a number of double quotes in a row. Of
these two stand as they are, and so do line feeds. -/
def escapeLong : Nat → List Char → List Char
  | _, [] => []
  | run, '"' :: rest =>
    if run < 2 then '"' :: escapeLong (run + 1) rest else '\\' :: '"' :: escapeLong 0 rest
  | _, '\n' :: rest => '\n' :: escapeLong 0 rest
  | _, c :: rest => escapeChar c ++ escapeLong 0 rest

def longestRow (quote : Char) : Nat → List Char → Nat
  | row, [] => row
  | row, c :: rest =>
    if c = quote then longestRow quote (row + 1) rest else max row (longestRow quote 0 rest)

inductive Quoting where
  | basic
  | plain
  | longBasic
  | longPlain
  deriving DecidableEq, Repr

namespace Quoting

def marks : Quoting → List Char
  | .basic => ['"']
  | .plain => ['\'']
  | .longBasic => ['"', '"', '"']
  | .longPlain => ['\'', '\'', '\'']

/-- A text as it stands between the marks. A line feed after the opening marks is none of the text's,
so that one is put before a text of several lines. -/
def body (quoting : Quoting) (text : List Char) : List Char :=
  let start := if text.contains '\n' then ['\n'] else []
  match quoting with
  | .basic => text.flatMap escapeChar
  | .plain => text
  | .longBasic => start ++ escapeLong 0 text
  | .longPlain => start ++ text

def write (quoting : Quoting) (text : List Char) : List Char :=
  quoting.marks ++ quoting.body text ++ quoting.marks

def suits (text : List Char) : Quoting → Bool
  | .basic => text.all fun c => isPlain c && c != '\\' && c != '"'
  | .plain => text.all fun c => isPlain c && c != '\''
  | .longBasic =>
    (text.all fun c => (isPlain c || c == '\n') && c != '\\') && longestRow '"' 0 text ≤ 2
  | .longPlain => (text.all fun c => isPlain c || c == '\n') && longestRow '\'' 0 text ≤ 2

def choose (ways : List Quoting) (fallback : Quoting) (text : List Char) : Quoting :=
  (ways.find? (suits text)).getD fallback

end Quoting

def textValue (text : String) : List Char :=
  let chars := text.toList
  let fallback := if chars.contains '\n' then Quoting.longBasic else .basic
  (Quoting.choose [.basic, .plain, .longBasic, .longPlain] fallback chars).write chars

def booleanValue (value : Bool) : List Char :=
  (if value then "true" else "false").toList

/-- A name as a key, without quotes if it can do without, and always on one line. -/
def key (name : String) : List Char :=
  if !name.isEmpty && name.toList.all isKeyChar then name.toList
  else (Quoting.choose [.basic, .plain] .basic name.toList).write name.toList

def pairLine (name : String) (value : List Char) : List Char :=
  key name ++ [' ', '=', ' '] ++ value ++ ['\n']

def headerLine (path : List String) : List Char :=
  ['\n', '['] ++ List.intercalate ['.'] (path.map key) ++ [']', '\n']

end PortableSql.Toml
