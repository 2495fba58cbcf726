import PortableSql.Proofs.ArithmeticTree
import PortableSql.Proofs.Outline

/-! Divisions of integers, and what they are applied to.

A formula is arithmetic as GoogleSQL reads it, with signs in parentheses and the functions `mod` and `div`
(`Formula.ofText?`). What Spanner writes for an arithmetic tree over columns spells a formula, and `div` is applied
to integers in it unless a division of the database stands below: that is a floating-point number, and counts as an
integer where its leaves are integral (`Session.divisions_ofIntegers`).
-/

set_option autoImplicit false

namespace PortableSql

namespace ScanToken

variable {rest : List Char}

theorem ofText_sign {c : Char} (visible : c.isWhitespace = false) (sign : isLetter c = false) :
    ofText (c :: rest) = .sign c :: ofText rest := by
  rw [ofText, ofPieces, List.map_cons, run_cons, push, sign, if_neg Bool.false_ne_true,
    List.filter_cons_of_pos (by rw [isVisible, visible]; rfl)]
  rfl

theorem ofText_word {name : String} (inhabited : name ≠ "") (plain : name.toList.all isLetter = true)
    (apart : ∀ c ∈ rest.head?, isLetter c = false) : ofText (name.toList ++ rest) = .ofWord name :: ofText rest := by
  rw [ofText_append fun _ d _ head _ => apart d head, ofText_letters (String.toList_eq_nil_iff.not.mpr inhabited) plain]
  rfl

theorem apart_cons {c : Char} (sign : isLetter c = false) : ∀ d ∈ (c :: rest).head?, isLetter d = false :=
  fun _ head => Option.some.inj head ▸ sign

end ScanToken

/-- The types of numbers in GoogleSQL. -/
inductive NumberType where
  | int64
  | float64
  deriving DecidableEq, Repr

/-- What GoogleSQL does with two numbers. -/
inductive NumberOperator where
  | plus
  | minus
  | times
  -- Division of any numbers.
  | over
  | mod
  -- Division of integers.
  | div
  deriving DecidableEq, Repr

namespace NumberOperator

/-- The name in front of the parentheses, of which the signs have none. -/
def function : NumberOperator → String
  | .mod => "mod"
  | .div => "div"
  | .plus | .minus | .times | .over => ""

/-- What stands between the operands. -/
def separator : NumberOperator → Char
  | .plus => '+'
  | .minus => '-'
  | .times => '*'
  | .over => '/'
  | .mod | .div => ','

def ofSign? : Char → Option NumberOperator
  | '+' => some .plus
  | '-' => some .minus
  | '*' => some .times
  | '/' => some .over
  | _ => none

def ofFunction? (name : String) : Option NumberOperator :=
  if name = "mod" then some .mod else if name = "div" then some .div else none

/-- The type of the result: a division of any numbers is never an integer, and otherwise integers yield one. -/
def type : NumberOperator → NumberType → NumberType → NumberType
  | .over, _, _ => .float64
  | _, .int64, .int64 => .int64
  | _, _, _ => .float64

theorem type_eq_int64 (operator : NumberOperator) (left right : NumberType) :
    operator.type left right = .int64 ↔ operator ≠ .over ∧ left = .int64 ∧ right = .int64 := by
  cases operator <;> cases left <;> cases right <;> decide

theorem isLetter_separator (operator : NumberOperator) : ScanToken.isLetter operator.separator = false := by
  cases operator <;> rfl

theorem isWhitespace_separator (operator : NumberOperator) : operator.separator.isWhitespace = false := by
  cases operator <;> rfl

theorem all_function (operator : NumberOperator) : operator.function.toList.all ScanToken.isLetter = true := by
  cases operator <;> rfl

end NumberOperator

/-- Arithmetic over columns in GoogleSQL. -/
inductive Formula where
  | column (qualifier : Option String) (name : String)
  | operation (operator : NumberOperator) (left right : Formula)
  deriving DecidableEq, Repr

namespace Formula

def text : Formula → String
  | .column none name => name
  | .column (some qualifier) name => qualifier ++ "." ++ name
  | .operation operator left right =>
    operator.function ++ "(" ++ left.text ++ operator.separator.toString ++ right.text ++ ")"

def type (schema : Option String → String → NumberType) : Formula → NumberType
  | .column qualifier name => schema qualifier name
  | .operation operator left right => operator.type (left.type schema) (right.type schema)

/-- The arguments of every `div`. -/
def divisions : Formula → List (Formula × Formula)
  | .column _ _ => []
  | .operation operator left right =>
    (if operator = .div then [(left, right)] else []) ++ left.divisions ++ right.divisions

/-! ### Reading -/

/-- What waits for a formula to end: an operation with its first operand, or with none. -/
inductive Frame where
  -- An open parenthesis, and a sign comes.
  | sign
  | function (operator : NumberOperator)
  | operation (operator : NumberOperator) (left : Formula)

/-- A reader of formulas: before one, behind a qualifier, or behind a formula. What is open around the place comes
innermost first. -/
inductive Reader where
  | before (frames : List Frame)
  | qualified (qualifier : String) (frames : List Frame)
  | behind (formula : Formula) (frames : List Frame)

namespace Reader

def word (name : String) : Reader → Option Reader
  | .before frames => some (.behind (.column none name) frames)
  | .qualified qualifier frames => some (.behind (.column (some qualifier) name) frames)
  | .behind _ _ => none

def point : Reader → Option Reader
  | .behind (.column none name) frames => some (.qualified name frames)
  | _ => none

/-- A name in front of a parenthesis is that of a function. -/
def opening : Reader → Option Reader
  | .before frames => some (.before (.sign :: frames))
  | .behind (.column none name) frames =>
    (NumberOperator.ofFunction? name).map fun operator => .before (.function operator :: frames)
  | _ => none

def comma : Reader → Option Reader
  | .behind left (.function operator :: frames) => some (.before (.operation operator left :: frames))
  | _ => none

def sign (operator : NumberOperator) : Reader → Option Reader
  | .behind left (.sign :: frames) => some (.before (.operation operator left :: frames))
  | _ => none

def closing : Reader → Option Reader
  | .behind right (.operation operator left :: frames) => some (.behind (.operation operator left right) frames)
  | _ => none

def step (reader : Reader) : ScanToken → Option Reader
  | .word letters => reader.word (String.ofList letters)
  | .sign '.' => reader.point
  | .sign '(' => reader.opening
  | .sign ',' => reader.comma
  | .sign ')' => reader.closing
  | .sign c => (NumberOperator.ofSign? c).bind reader.sign
  | .literal _ => none

end Reader

/-- The formula that tokens spell. -/
def read (tokens : List ScanToken) : Option Formula :=
  match tokens.foldlM Reader.step (.before []) with
  | some (.behind formula []) => some formula
  | _ => none

def ofText? (text : String) : Option Formula :=
  read (ScanToken.ofText text.toList)

/-- The tokens of a formula. -/
def tokens : Formula → List ScanToken
  | .column none name => [.ofWord name]
  | .column (some qualifier) name => [.ofWord qualifier, .sign '.', .ofWord name]
  | .operation operator left right =>
    (if operator.function = "" then [] else [.ofWord operator.function])
      ++ .sign '(' :: (left.tokens ++ .sign operator.separator :: (right.tokens ++ [.sign ')']))

/-- A formula is read wherever one is due. -/
theorem foldlM_tokens (formula : Formula) (frames : List Frame) :
    formula.tokens.foldlM Reader.step (.before frames) = some (.behind formula frames) := by
  induction formula generalizing frames with
  | column qualifier name =>
    cases qualifier <;> simp [tokens, ScanToken.ofWord, Reader.step, Reader.word, Reader.point]
  | operation operator left right ihLeft ihRight =>
    cases operator <;>
      simp [tokens, ScanToken.ofWord, NumberOperator.function, NumberOperator.separator, ihLeft, ihRight, Reader.step,
        Reader.word, Reader.opening, Reader.comma, Reader.sign, Reader.closing, NumberOperator.ofFunction?,
        NumberOperator.ofSign?]

theorem read_tokens (formula : Formula) : read formula.tokens = some formula := by
  rw [read, formula.foldlM_tokens []]

/-- Whether a name is a word of its own. -/
def IsWord (name : String) : Prop :=
  name ≠ "" ∧ name.toList.all ScanToken.isLetter = true

/-- Whether all names of a formula are words. -/
def Plain : Formula → Prop
  | .column qualifier name => (∀ word ∈ qualifier, IsWord word) ∧ IsWord name
  | .operation _ left right => left.Plain ∧ right.Plain

-- A formula ends with a name or a parenthesis, and only another name could go on with it.
theorem ofText_text {formula : Formula} (plain : formula.Plain) (rest : List Char)
    (apart : ∀ c ∈ rest.head?, ScanToken.isLetter c = false) :
    ScanToken.ofText (formula.text.toList ++ rest) = formula.tokens ++ ScanToken.ofText rest := by
  induction formula generalizing rest with
  | column qualifier name =>
    obtain ⟨scope, own⟩ := plain
    cases qualifier with
    | none => exact ScanToken.ofText_word own.1 own.2 apart
    | some qualifier =>
      have scope := scope qualifier rfl
      rw [text, String.toList_append, String.toList_append, List.append_assoc, List.append_assoc]
      show ScanToken.ofText (qualifier.toList ++ '.' :: (name.toList ++ rest)) = _
      rw [ScanToken.ofText_word scope.1 scope.2 (ScanToken.apart_cons (by decide)),
        ScanToken.ofText_sign (by decide) (by decide), ScanToken.ofText_word own.1 own.2 apart]
      rfl
  | operation operator left right ihLeft ihRight =>
    have inner :
        ScanToken.ofText ('(' :: (left.text.toList ++ operator.separator :: (right.text.toList ++ ')' :: rest))) =
          .sign '(' ::
            (left.tokens ++ .sign operator.separator :: (right.tokens ++ .sign ')' :: ScanToken.ofText rest)) := by
      rw [ScanToken.ofText_sign (by decide) (by decide),
        ihLeft plain.1 _ (ScanToken.apart_cons operator.isLetter_separator),
        ScanToken.ofText_sign operator.isWhitespace_separator operator.isLetter_separator,
        ihRight plain.2 _ (ScanToken.apart_cons (by decide)), ScanToken.ofText_sign (by decide) (by decide)]
    have spelled : (operation operator left right).text.toList ++ rest =
        operator.function.toList ++
          '(' :: (left.text.toList ++ operator.separator :: (right.text.toList ++ ')' :: rest)) := by
      simp [text]
    rw [spelled, tokens]
    split_ifs with unnamed
    · rw [unnamed]
      show ScanToken.ofText ('(' :: _) = _
      rw [inner]
      simp
    · rw [ScanToken.ofText_word unnamed operator.all_function (ScanToken.apart_cons (by decide)), inner]
      simp

theorem ofText?_text {formula : Formula} (plain : formula.Plain) : ofText? formula.text = some formula := by
  have whole := ofText_text plain [] nofun
  rw [List.append_nil] at whole
  rw [ofText?, whole]
  exact (congrArg read (List.append_nil _)).trans formula.read_tokens

end Formula

theorem Fragment.Adds.column (target : Target) (column : ColumnRef) :
    Adds target.config (Render.expr target (.column column))
      (Formula.column column.qualifier column.name).text := by
  obtain ⟨qualifier, name, sqlType⟩ := column
  cases qualifier with
  | none => exact (nil.append (.text name)).congr (String.empty_append)
  | some qualifier => exact ((Adds.text qualifier).append (.text ".")).append (.text name)

namespace ArithmeticTree

variable {α : Type}

def operators : ArithmeticTree α → List ArithmeticOp
  | .leaf _ => []
  | .operation left op right => op :: (left.operators ++ right.operators)

/-- The operands of every portable division that divides integers. -/
def divisions (integral : α → Bool) : ArithmeticTree α → List (ArithmeticTree α × ArithmeticTree α)
  | .leaf _ => []
  | .operation left op right =>
    (if dividesIntegers integral left op right then [(left, right)] else [])
      ++ left.divisions integral ++ right.divisions integral

theorem leaves_of_mem_divisions {integral : α → Bool} {tree : ArithmeticTree α}
    {division : ArithmeticTree α × ArithmeticTree α} (mem : division ∈ tree.divisions integral) :
    ∀ a ∈ division.1.leaves ++ division.2.leaves, a ∈ tree.leaves ∧ integral a = true := by
  induction tree with
  | leaf => contradiction
  | operation left op right ihLeft ihRight =>
    intro a own
    rw [divisions, List.mem_append, List.mem_append] at mem
    rw [leaves]
    rcases mem with (mem | mem) | mem
    · split_ifs at mem with whole
      · obtain rfl := List.mem_singleton.mp mem
        exact ⟨own, List.all_eq_true.mp (Bool.and_eq_true_iff.mp whole).2 a own⟩
      · contradiction
    · exact (ihLeft mem a own).imp_left (List.mem_append_left _)
    · exact (ihRight mem a own).imp_left (List.mem_append_right _)

/-- What Spanner writes an operation with. -/
def operator (left : ArithmeticTree ColumnRef) (op : ArithmeticOp) (right : ArithmeticTree ColumnRef) :
    NumberOperator :=
  if dividesIntegers (·.sqlType.isIntegral) left op right then .div
  else
    match op with
    | .add => .plus
    | .subtract => .minus
    | .multiply => .times
    | .divide | .dividePortable => .over
    | .modulo => .mod

/-- What Spanner makes of a tree. -/
def formula : ArithmeticTree ColumnRef → Formula
  | .leaf column => .column column.qualifier column.name
  | .operation left op right => .operation (operator left op right) left.formula right.formula

theorem operator_eq_div (left : ArithmeticTree ColumnRef) (op : ArithmeticOp) (right : ArithmeticTree ColumnRef) :
    operator left op right = .div ↔ dividesIntegers (·.sqlType.isIntegral) left op right = true := by
  unfold operator
  split_ifs with whole
  · exact iff_of_true rfl whole
  · exact iff_of_false (by cases op <;> nofun) whole

theorem operator_eq_over {left right : ArithmeticTree ColumnRef} {op : ArithmeticOp}
    (whole : ∀ column ∈ left.leaves ++ right.leaves, column.sqlType.isIntegral = true) :
    operator left op right = .over ↔ op = .divide := by
  unfold operator
  rw [dividesIntegers, List.all_eq_true.mpr whole]
  cases op <;> decide

theorem divisions_formula (tree : ArithmeticTree ColumnRef) :
    tree.formula.divisions = (tree.divisions (·.sqlType.isIntegral)).map (Prod.map formula formula) := by
  induction tree with
  | leaf => rfl
  | operation left op right ihLeft ihRight =>
    simp only [formula, Formula.divisions, divisions, operator_eq_div, ihLeft, ihRight, List.map_append]
    split_ifs <;> rfl

theorem text_formula (tree : ArithmeticTree ColumnRef) :
    tree.formula.text =
      tree.spelling (·.sqlType.isIntegral) fun column => (Formula.column column.qualifier column.name).text := by
  induction tree with
  | leaf => rfl
  | operation left op right ihLeft ihRight =>
    rw [formula, Formula.text, ihLeft, ihRight, spelling]
    unfold operator
    split_ifs with whole modulo
    · rfl
    · subst modulo
      rfl
    · cases op <;> first | rfl | contradiction

theorem plain_formula {tree : ArithmeticTree ColumnRef}
    (plain : ∀ column ∈ tree.leaves, (Formula.column column.qualifier column.name).Plain) : tree.formula.Plain := by
  induction tree with
  | leaf column => exact plain column List.mem_cons_self
  | operation left op right ihLeft ihRight =>
    obtain ⟨l, r⟩ := List.forall_mem_append.mp plain
    exact ⟨ihLeft l, ihRight r⟩

/-- A tree of integers is an integer unless a division of the database is in it. -/
theorem type_formula {schema : Option String → String → NumberType} {tree : ArithmeticTree ColumnRef}
    (declared : ∀ column ∈ tree.leaves, column.sqlType.isIntegral = true ∧
      schema column.qualifier column.name = .int64) :
    tree.formula.type schema = .int64 ↔ .divide ∉ tree.operators := by
  induction tree with
  | leaf column => exact iff_of_true (declared column List.mem_cons_self).2 List.not_mem_nil
  | operation left op right ihLeft ihRight =>
    obtain ⟨l, r⟩ := List.forall_mem_append.mp declared
    have whole : ∀ column ∈ left.leaves ++ right.leaves, column.sqlType.isIntegral = true :=
      fun column mem => (declared column mem).1
    rw [formula, Formula.type, NumberOperator.type_eq_int64, operators, List.mem_cons, List.mem_append, not_or, not_or,
      ← ihLeft l, ← ihRight r, ne_eq, operator_eq_over whole, eq_comm]

end ArithmeticTree

namespace Session

/-- Spanner writes every arithmetic tree over columns, and its text reads as a formula where the names are words.
Among integers and floating-point numbers both arguments of every `div` in it are integers if and only if there is
no division of the database below one. -/
theorem divisions_ofIntegers (session : Session) (spanner : session.target.dialect = .spanner)
    (tree : ArithmeticTree ColumnRef) (schema : Option String → String → NumberType)
    (declared : ∀ column ∈ tree.leaves,
      column.sqlType.isIntegral = true ∧ schema column.qualifier column.name = .int64 ∨
        column.sqlType.isFloating = true ∧ schema column.qualifier column.name = .float64) :
    (session.write (.expr (tree.expr .column))).2 = none ∧
      session.textOf (.expr (tree.expr .column)) = tree.formula.text ∧
      ((∀ column ∈ tree.leaves, (Formula.column column.qualifier column.name).Plain) →
        Formula.ofText? (session.textOf (.expr (tree.expr .column))) = some tree.formula) ∧
      ((∀ division ∈ tree.formula.divisions, division.1.type schema = .int64 ∧ division.2.type schema = .int64) ↔
        ∀ division ∈ tree.divisions (·.sqlType.isIntegral),
          .divide ∉ division.1.operators ++ division.2.operators) := by
  have written : Fragment.Adds session.target.config (Render.expr session.target (tree.expr .column))
      tree.formula.text := by
    rw [tree.text_formula]
    refine ArithmeticTree.adds_spelling .column spanner fun column _ => ?_
    exact .column session.target column
  have spelled : session.textOf (.expr (tree.expr .column)) = tree.formula.text :=
    (session.textOf_eq _).trans written.sql
  refine ⟨written.whole, spelled, fun plain => ?_, ?_⟩
  · rw [spelled]
    exact Formula.ofText?_text (ArithmeticTree.plain_formula plain)
  · rw [tree.divisions_formula, List.forall_mem_map]
    refine forall₂_congr fun division mem => ?_
    have whole : ∀ column ∈ division.1.leaves ++ division.2.leaves,
        column.sqlType.isIntegral = true ∧ schema column.qualifier column.name = .int64 := fun column own => by
      obtain ⟨below, integral⟩ := ArithmeticTree.leaves_of_mem_divisions mem column own
      refine ((declared column below).resolve_right fun ⟨floating, _⟩ => ?_)
      exact absurd floating (Bool.eq_false_iff.mp (SqlType.not_floating_of_integral integral))
    obtain ⟨l, r⟩ := List.forall_mem_append.mp whole
    rw [List.mem_append, not_or, ← ArithmeticTree.type_formula l, ← ArithmeticTree.type_formula r]
    rfl

/-- `((a + b) / c) * x`, of integers and a floating-point number. -/
theorem divisions_ofIntegers_mixed :
    let session : Session := ⟨⟨.spanner, .spanner⟩, [], []⟩
    let column (name : String) (sqlType : SqlType) : ArithmeticTree ColumnRef := .leaf { name, sqlType }
    let whole : ArithmeticTree ColumnRef :=
      .operation (.operation (column "a" .bigInt) .add (column "b" .tinyInt)) .dividePortable (column "c" .integer)
    let schema (_ : Option String) (name : String) : NumberType := if name = "x" then .float64 else .int64
    session.textOf (.expr ((whole.operation .multiply (column "x" .double)).expr .column)) = "(div((a+b),c)*x)" ∧
      ∀ division ∈ (whole.operation .multiply (column "x" .double)).formula.divisions,
        division.1.type schema = .int64 ∧ division.2.type schema = .int64 := by
  intro session column whole schema
  have all := session.divisions_ofIntegers rfl (whole.operation .multiply (column "x" .double)) schema (by decide)
  exact ⟨all.2.1.trans (by decide +kernel), all.2.2.2.mpr (by decide)⟩

/-- `(a / b) / c` of integers, with a division of the database inside of a portable one. -/
theorem division_ofFloat :
    let session : Session := ⟨⟨.spanner, .spanner⟩, [], []⟩
    let column (name : String) : ArithmeticTree ColumnRef := .leaf { name, sqlType := .integer }
    let tree : ArithmeticTree ColumnRef :=
      .operation (.operation (column "a") .divide (column "b")) .dividePortable (column "c")
    session.textOf (.expr (tree.expr .column)) = "div((a/b),c)" ∧
      ∃ formula, Formula.ofText? "div((a/b),c)" = some formula ∧
        ∃ division ∈ formula.divisions, division.1.type (fun _ _ => .int64) = .float64 := by
  intro session column tree
  have spelled : session.textOf (.expr (tree.expr .column)) = "div((a/b),c)" := by decide +kernel
  exact ⟨spelled, tree.formula, by decide +kernel, _, List.mem_cons_self, by decide⟩

end Session

end PortableSql
