import PortableSql.Render.Operand

/-! Matches against a pattern, and patterns with an escape.

In a pattern `%` and `_` are wildcards, unless the escape stands before them. A pattern with one
escape is turned into one with the backslash as the escape: backslashes are doubled, an escaped
wildcard stays escaped, and an escaped escape becomes the bare character.
-/

set_option autoImplicit false

namespace PortableSql.Pattern

def isWildcard (c : Char) : Bool :=
  c == '%' || c == '_'

/-- A pattern written for an escape, with the backslash as its escape. -/
def backslashed (escape : Char) : List Char → List Char
  | [] => []
  | '\\' :: rest => '\\' :: '\\' :: backslashed escape rest
  | c :: next :: rest =>
    if c = escape then
      if isWildcard next then '\\' :: next :: backslashed escape rest
      else if next = escape then escape :: backslashed escape rest
      else c :: backslashed escape (next :: rest)
    else c :: backslashed escape (next :: rest)
  | [c] => [c]

def escape? (escape : Expr) : Option Char :=
  match escape.string? with
  | some text => match text.toList with
    | [c] => some c
    | _ => none
  | none => none

def escapeClause (escape : Option Fragment) : Fragment :=
  .ifSome escape fun fragment => .text " escape " ++ fragment

def standard (caseSensitive negated : Bool) (expr pattern : Fragment) (escape : Option Fragment) :
    Fragment :=
  expr ++ .onlyIf negated (.text " not") ++ .text (if caseSensitive then " like " else " ilike ")
    ++ pattern ++ escapeClause escape

def lowered (config : Config) (negated : Bool) (expr pattern : Fragment)
    (escape : Option Fragment) : Fragment :=
  .text config.lowercaseFunction ++ .parens expr ++ .onlyIf negated (.text " not")
    ++ .text " like " ++ .text config.lowercaseFunction ++ .parens pattern ++ escapeClause escape

def unescaped (config : Config) (caseSensitive negated : Bool) (expr pattern : Fragment) :
    Fragment :=
  if caseSensitive then standard true negated expr pattern none
  else lowered config negated expr pattern none

end PortableSql.Pattern
