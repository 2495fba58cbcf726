import PortableSql.Toml.Scalar

/-! Reading TOML documents.

A document is read line by line into sections, which are then put together. The steps below each read
a part from the start of a text and answer with what is left. They descend on a bound, which the
length of the text always satisfies.
-/

set_option autoImplicit false

namespace PortableSql.Toml

open Text

def isGap (c : Char) : Bool :=
  c == ' ' || c == '\t'

def skipGap (text : List Char) : List Char :=
  text.dropWhile isGap

def isPlain (c : Char) : Bool :=
  c == '\t' || (0x20 ≤ c.toNat && c.toNat != 0x7f)

def newLine? : List Char → Option (List Char)
  | '\n' :: rest => some rest
  | '\r' :: '\n' :: rest => some rest
  | _ => none

def skipLayout : Bool → List Char → Option (List Char)
  | _, [] => some []
  | _, '\n' :: rest => skipLayout false rest
  | _, '\r' :: '\n' :: rest => skipLayout false rest
  | true, c :: rest => if isPlain c then skipLayout true rest else none
  | false, '#' :: rest => skipLayout true rest
  | false, c :: rest => if isGap c then skipLayout false rest else some (c :: rest)

def lineEnd? (text : List Char) : Option (List Char) :=
  match skipGap text with
  | [] => some []
  | '#' :: rest =>
    let comment := rest.takeWhile isPlain
    match rest.drop comment.length with
    | [] => some []
    | rest => newLine? rest
  | rest => newLine? rest

def scalar? (digits : List Char) : Option Char := do
  let n ← hexNumber? digits
  if n.isValidChar then some (Char.ofNat n) else none

def shortEscape? : Char → Option Char
  | '"' => some '"'
  | '\\' => some '\\'
  | 'b' => some '\x08'
  | 't' => some '\t'
  | 'n' => some '\n'
  | 'f' => some '\x0c'
  | 'r' => some '\r'
  | _ => none

def withChar (c : Char) (read : Option (List Char × List Char)) : Option (List Char × List Char) :=
  read.map fun (content, rest) => (c :: content, rest)

def basic : List Char → Option (List Char × List Char)
  | [] => none
  | '"' :: rest => some ([], rest)
  | '\\' :: 'u' :: a :: b :: c :: d :: rest =>
    match scalar? [a, b, c, d] with
    | some scalar => withChar scalar (basic rest)
    | none => none
  | '\\' :: 'U' :: a :: b :: c :: d :: e :: f :: g :: h :: rest =>
    match scalar? [a, b, c, d, e, f, g, h] with
    | some scalar => withChar scalar (basic rest)
    | none => none
  | '\\' :: c :: rest =>
    match shortEscape? c with
    | some escaped => withChar escaped (basic rest)
    | none => none
  | c :: rest => if isPlain c && c != '\\' then withChar c (basic rest) else none

/-- Where a string over lines stands after a backslash at the end of a line. -/
inductive Folding where
  | off
  | pending
  | on
  deriving DecidableEq, Repr

/-- A string with escapes over lines, after its opening quotes. Up to two quotes stand before the
closing ones; an end of a line is a line feed. -/
def longBasic : Folding → List Char → Option (List Char × List Char)
  | _, [] => none
  | .pending, '\n' :: rest => longBasic .on rest
  | .pending, '\r' :: '\n' :: rest => longBasic .on rest
  | .pending, c :: rest => if isGap c then longBasic .pending rest else none
  | .on, '\n' :: rest => longBasic .on rest
  | .on, '\r' :: '\n' :: rest => longBasic .on rest
  | .on, ' ' :: rest => longBasic .on rest
  | .on, '\t' :: rest => longBasic .on rest
  | _, '"' :: '"' :: '"' :: '"' :: '"' :: rest => some (['"', '"'], rest)
  | _, '"' :: '"' :: '"' :: '"' :: rest => some (['"'], rest)
  | _, '"' :: '"' :: '"' :: rest => some ([], rest)
  | _, '\n' :: rest => withChar '\n' (longBasic .off rest)
  | _, '\r' :: '\n' :: rest => withChar '\n' (longBasic .off rest)
  | _, '\\' :: 'u' :: a :: b :: c :: d :: rest =>
    match scalar? [a, b, c, d] with
    | some scalar => withChar scalar (longBasic .off rest)
    | none => none
  | _, '\\' :: 'U' :: a :: b :: c :: d :: e :: f :: g :: h :: rest =>
    match scalar? [a, b, c, d, e, f, g, h] with
    | some scalar => withChar scalar (longBasic .off rest)
    | none => none
  | _, '\\' :: '\n' :: rest => longBasic .on rest
  | _, '\\' :: '\r' :: '\n' :: rest => longBasic .on rest
  | _, '\\' :: c :: rest =>
    match shortEscape? c with
    | some escaped => withChar escaped (longBasic .off rest)
    | none => if isGap c then longBasic .pending rest else none
  | _, c :: rest => if isPlain c && c != '\\' then withChar c (longBasic .off rest) else none

def plainString : List Char → Option (List Char × List Char)
  | [] => none
  | '\'' :: rest => some ([], rest)
  | c :: rest => if isPlain c then withChar c (plainString rest) else none

def longPlain : List Char → Option (List Char × List Char)
  | [] => none
  | '\'' :: '\'' :: '\'' :: '\'' :: '\'' :: rest => some (['\'', '\''], rest)
  | '\'' :: '\'' :: '\'' :: '\'' :: rest => some (['\''], rest)
  | '\'' :: '\'' :: '\'' :: rest => some ([], rest)
  | '\n' :: rest => withChar '\n' (longPlain rest)
  | '\r' :: '\n' :: rest => withChar '\n' (longPlain rest)
  | c :: rest => if isPlain c then withChar c (longPlain rest) else none

def dropNewLine (text : List Char) : List Char :=
  (newLine? text).getD text

def string? (text : List Char) : Option (List Char × List Char) :=
  match text with
  | '"' :: '"' :: '"' :: rest => longBasic .off (dropNewLine rest)
  | '"' :: rest => basic rest
  | '\'' :: '\'' :: '\'' :: rest => longPlain (dropNewLine rest)
  | '\'' :: rest => plainString rest
  | _ => none

def isKeyChar (c : Char) : Bool :=
  c.isAlphanum || c == '_' || c == '-'

def keyPart? (text : List Char) : Option (String × List Char) :=
  match text with
  | '"' :: rest => (basic rest).map fun (name, rest) => (String.ofList name, rest)
  | '\'' :: rest => (plainString rest).map fun (name, rest) => (String.ofList name, rest)
  | _ =>
    let name := text.takeWhile isKeyChar
    if name.isEmpty then none else some (String.ofList name, text.drop name.length)

/-- The greatest number of brackets around a value, and of parts of a key. -/
def greatestDepth : Nat := 79

def keyParts? : Nat → List Char → Option (List String × List Char)
  | 0, _ => none
  | bound + 1, text => do
    let (name, rest) ← keyPart? (skipGap text)
    match skipGap rest with
    | '.' :: rest =>
      let (path, rest) ← keyParts? bound rest
      return (name :: path, rest)
    | rest => return ([name], rest)

def key? (text : List Char) : Option (List String × List Char) :=
  (keyParts? (greatestDepth + 1) text).filter fun key => key.1.length ≤ greatestDepth

mutual

def value? : Nat → Nat → List Char → Option (Toml × List Char)
  | 0, _, _ => none
  | bound + 1, depth, text =>
    match depth, text with
    | 0, '[' :: _ | 0, '\x7b' :: _ => none
    | depth + 1, '[' :: rest => do
      let (items, rest) ← items? bound depth rest
      return (.array items, rest)
    | depth + 1, '\x7b' :: rest => do
      let (pairs, rest) ← match skipGap rest with
        | '\x7d' :: rest => some ([], rest)
        | rest => pairs? bound depth rest
      return (← ofPairs? pairs, rest)
    | _, '"' :: _ | _, '\'' :: _ =>
      (string? text).map fun (content, rest) => (.string (String.ofList content), rest)
    | _, _ => word? text

/-- The items of an array, up to the closing bracket. A comma may follow the last one. -/
def items? : Nat → Nat → List Char → Option (List Toml × List Char)
  | 0, _, _ => none
  | bound + 1, depth, text => do
    match ← skipLayout false text with
    | ']' :: rest => return ([], rest)
    | text =>
      let (item, rest) ← value? bound depth text
      match ← skipLayout false rest with
      | ']' :: rest => return ([item], rest)
      | ',' :: rest =>
        let (items, rest) ← items? bound depth rest
        return (item :: items, rest)
      | _ => none

def pairs? : Nat → Nat → List Char → Option (List Pair × List Char)
  | 0, _, _ => none
  | bound + 1, depth, text => do
    let (key, rest) ← key? text
    let (value, rest) ← value? bound depth (skipGap (← after? '=' rest))
    match skipGap rest with
    | '\x7d' :: rest => return ([(key, value)], rest)
    | ',' :: rest =>
      let (pairs, rest) ← pairs? bound depth rest
      return ((key, value) :: pairs, rest)
    | _ => none

end

inductive Line where
  | header (header : Header)
  | pair (pair : Pair)

def line? (text : List Char) : Option (Line × List Char) :=
  match text with
  | '[' :: '[' :: rest => do
    let (path, rest) ← key? rest
    let rest ← lineEnd? (← afterWord? [']', ']'] rest)
    return (.header (.element path), rest)
  | '[' :: rest => do
    let (path, rest) ← key? rest
    let rest ← lineEnd? (← after? ']' rest)
    return (.header (.table path), rest)
  | _ => do
    let (key, rest) ← key? text
    let (value, rest) ← value? (text.length + 1) greatestDepth (skipGap (← after? '=' rest))
    return (.pair (key, value), ← lineEnd? rest)

def lines? : Nat → List Char → Option (List Line)
  | 0, _ => none
  | bound + 1, text => do
    match ← skipLayout false text with
    | [] => return []
    | text =>
      let (line, rest) ← line? text
      return line :: (← lines? bound rest)

/-- The sections that lines fall into, given the header above them. -/
def sections (header : Header) : List Line → List Section
  | [] => [⟨header, []⟩]
  | .header next :: rest => ⟨header, []⟩ :: sections next rest
  | .pair pair :: rest =>
    match sections header rest with
    | first :: others => { first with pairs := pair :: first.pairs } :: others
    | [] => []

/-- The table that a whole text is. A mark of the byte order may come first. -/
def ofText? (text : String) : Option Toml :=
  let chars := text.toList
  let chars := (after? '\ufeff' chars).getD chars
  (lines? (chars.length + 1) chars).bind fun lines => ofSections? (sections .root lines)

end PortableSql.Toml
