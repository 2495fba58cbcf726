import PortableSql.SqlType
import PortableSql.Syntax.Operator

/-! What can go wrong, by cause.

A cause belongs to one category, a category to one kind, and `Error.message?` is the only place where
causes are put into words. Unreadable input has no words here: its description belongs to whoever
shows the input.
-/

set_option autoImplicit false

namespace PortableSql

/-- What a caller can do about an error. -/
inductive ErrorKind where
  | illegalQueryOperation
  -- The request is impossible, or the dialect lacks what it needs.
  | unsupportedOperation
  | input
  deriving DecidableEq, Repr

/-- A family of causes. -/
inductive ErrorCategory where
  | illegal
  -- A value that has to be a literal is none.
  | unresolvable
  -- The request is structurally impossible.
  | unsupported
  | config
  | invalidValue
  | json
  | toml
  | file
  deriving DecidableEq, Repr

namespace ErrorCategory

def kind : ErrorCategory → ErrorKind
  | .illegal | .unresolvable => .illegalQueryOperation
  | .unsupported | .config => .unsupportedOperation
  | .invalidValue | .json | .toml | .file => .input

def heading : ErrorCategory → String
  | .illegal => "Illegal query operation: "
  | .unresolvable => "Unresolvable literal: "
  | .unsupported => "Unsupported operation: "
  | .config => "Configuration error: "
  | .invalidValue => "Invalid value: "
  | .json => "JSON error: "
  | .toml => "TOML error: "
  | .file => "IO error: "

end ErrorCategory

/-- The cause of a failure. -/
inductive Error where
  | rowLengths (left right : Nat)
  | emptyRow
  | distinctRow
  | limitedSubquery
  | summarization (kind : SummarizationKind)
  | namesForStar
  | nameCount (names columns : Nat)
  | functionColumns (names : List String) (function aliasName : String)
  | namedConstraint
  | constraintColumns
  | conflictPredicate
  | escapeNotCharacter
  | patternNotLiteral (escape : Char)
  | noTemporaryTables
  | unsupportedElement (type : SqlType)
  | elementRange (index : Nat) (value : Int) (type : SqlType)
  -- A caller's own words for a cause.
  | stated (category : ErrorCategory) (message : String)
  | json
  | toml
  | file

namespace Error

def category : Error → ErrorCategory
  | .rowLengths _ _ | .emptyRow | .namesForStar | .nameCount _ _ | .functionColumns _ _ _
  | .namedConstraint | .constraintColumns | .conflictPredicate => .illegal
  | .escapeNotCharacter | .patternNotLiteral _ => .unresolvable
  | .distinctRow | .limitedSubquery | .summarization _ => .unsupported
  | .noTemporaryTables => .config
  | .unsupportedElement _ | .elementRange _ _ _ => .invalidValue
  | .stated category _ => category
  | .json => .json
  | .toml => .toml
  | .file => .file

/-- The cause in words, if it is not left to whoever shows the input. -/
def detail? : Error → Option String
  | .rowLengths left right =>
    some ("Row value of " ++ toString left ++ " elements compared with one of " ++ toString right)
  | .emptyRow => some "Empty row value in comparison"
  | .distinctRow => some "Row value distinct-from comparison can't be expanded"
  | .limitedSubquery => some "Row-value comparison against a subquery with a limit or offset"
  | .summarization kind => some ("Summarization (" ++ kind.text ++ ") is not supported by Spanner")
  | .namesForStar => some "Can't apply derived column names to a star selection"
  | .nameCount names columns =>
    some ("Derived table declares " ++ toString names ++ " column names but the query selects "
      ++ toString columns ++ " columns")
  | .functionColumns names function aliasName =>
    some ("Spanner can't alias columns (" ++ String.intercalate "," names ++ ") of " ++ function
      ++ "() in '" ++ aliasName ++ "'")
  | .namedConstraint => some "Cloud Spanner does not support named constraints in conflict clauses"
  | .constraintColumns =>
    some "Cloud Spanner does not support specifying constraint columns in conflict clauses"
  | .conflictPredicate =>
    some "Cloud Spanner does not support predicates (WHERE clause) in conflict clauses"
  | .escapeNotCharacter => some "Like escape character must be a single-character string literal"
  | .patternNotLiteral escape =>
    some ("Like pattern must be a string literal to use escape character '" ++ escape.toString
      ++ "' on Spanner")
  | .noTemporaryTables => some "dialect returned no temporary table strategy"
  | .unsupportedElement type => some ("Arrays of " ++ type.name ++ " are not supported")
  | .elementRange index value type =>
    some ("Array element " ++ toString index ++ " (" ++ toString value ++ ") does not fit "
      ++ type.name)
  | .stated _ message => some message
  | .json | .toml | .file => none

def kind (error : Error) : ErrorKind :=
  error.category.kind

def message? (error : Error) : Option String :=
  error.detail?.map (error.category.heading ++ ·)

end Error

end PortableSql
