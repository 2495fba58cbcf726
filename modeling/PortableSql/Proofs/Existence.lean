import Mathlib.Data.List.Dedup
import PortableSql.Proofs.Junction

/-! What queries and existence tests come to over a database.

Where rows come from and how they are grouped is the database's; a row or a group is known by what
expressions and atoms come to there. The conditions of an existence test are read from their tokens,
which are the atoms of the query it was made from and comparisons of single elements. The elements of
the row on the other side keep the value that they have outside.
-/

set_option autoImplicit false

namespace PortableSql

variable {V : Type}

/-- A row or a group of rows. -/
structure Place (V : Type) where
  value : Expr → Option V
  truth : Predicate → Truth

structure Database (V : Type) where
  rows : List TableGroup → List (Place V)
  groups : List Expr → List (Place V) → List (Place V)

def Place.passes (place : Place V) (condition : Option Predicate) : Bool :=
  (condition.bind Predicate.prune).all fun p => decide (p.truth place.truth = .yes)

def Query.isGrouped (query : Query) : Bool :=
  !query.groupBy.isEmpty || Predicate.restricts query.having

namespace Database

/-- The rows of a query before its selections: groups that pass the having condition if the query is
grouped, else rows that pass the restriction. -/
def places (db : Database V) (query : Query) : List (Place V) :=
  let kept := (db.rows query.sources).filter (·.passes query.restriction)
  if query.isGrouped then (db.groups query.groupBy kept).filter (·.passes query.having) else kept

def result [DecidableEq V] (db : Database V) (query : Query) : List (List (Option V)) :=
  let rows := (db.places query).map fun place =>
    query.selections.map fun selection => place.value selection.expr
  if query.distinct then rows.dedup else rows

end Database

/-- A test in the conditions of an existence test. -/
inductive Trial where
  -- An atom of the query.
  | own (atom : Predicate)
  -- A selection of the query beside an element of the row.
  | element (left : Expr) (op : ComparisonOp) (right : Expr)

namespace Trial

def piece : Trial → Piece
  | .own atom => .predicate atom
  | .element left op right => .nativeComparison left op right

def fragment (target : Target) : Trial → Fragment
  | .own atom => Render.predicate target atom
  | .element left op right => RowValue.compare (Render.expr target left) op (Render.expr target right)

-- What a test comes to at a place, given the values that expressions have outside.
def truth [LinearOrder V] (place : Place V) (outer : Expr → Option V) : Trial → Truth
  | .own atom => place.truth atom
  | .element left op right => op.truth (place.value left) (outer right)

end Trial

-- Whether tokens, if there are any, are a condition that is true.
def Place.meets [LinearOrder V] (place : Place V) (outer : Expr → Option V)
    (tokens : Option (List (Token Trial))) : Bool :=
  tokens.all fun tokens => (Condition.read tokens).any fun condition =>
    decide (condition.truth (Trial.truth place outer) = .yes)

def Session.words (session : Session) (tokens : List (Token Trial)) : String :=
  String.join (tokens.map (Token.words fun trial => session.textOf trial.piece))

/-- The test `[not ]exists (select 1 …)`. -/
structure Existence where
  negated : Bool
  sources : List TableGroup
  restriction : Option (List (Token Trial))
  groupBy : List Expr
  having : Option (List (Token Trial))

namespace Existence

def text (session : Session) (e : Existence) : String :=
  (if e.negated then "not " else "") ++ "exists (select 1"
    ++ (if e.sources.isEmpty then "" else " from " ++ session.textOf (.sources e.sources))
    ++ e.restriction.elim "" (fun tokens => " where " ++ session.words tokens)
    ++ (if e.groupBy.isEmpty then "" else " group by "
      ++ ",".intercalate (e.groupBy.map fun item => session.textOf (.partitionItem item)))
    ++ e.having.elim "" (fun tokens => " having " ++ session.words tokens)
    ++ ")"

def holds [LinearOrder V] (db : Database V) (outer : Expr → Option V) (e : Existence) : Bool :=
  let kept := (db.rows e.sources).filter (·.meets outer e.restriction)
  let found :=
    if !e.groupBy.isEmpty || e.having.isSome then
      (db.groups e.groupBy kept).filter (·.meets outer e.having)
    else kept
  found.isEmpty == e.negated

end Existence

-- A condition behind another one in parentheses, if there is one.
def Trial.joined (own : Option (List (Token Trial))) (added : List (Token Trial)) : List (Token Trial) :=
  match own with
  | none => added
  | some own => .opening :: own ++ .closing :: .and :: added

/-- The existence test over a query with a condition added where its rows are restricted last. -/
def Existence.ofQuery (query : Query) (negated : Bool) (restriction having : Option (List (Token Trial)))
    (added : List (Token Trial)) : Existence :=
  if query.isGrouped then
    ⟨negated, query.sources, restriction, query.groupBy, some (Trial.joined having added)⟩
  else ⟨negated, query.sources, some (Trial.joined restriction added), [], none⟩

/-- The tokens of a condition of the query's own. -/
structure Owned (V : Type) [LinearOrder V] (target : Target) (condition : Option Predicate)
    (tokens : Option (List (Token Trial))) : Prop where
  fragment : Render.condition target condition = tokens.map (Fragment.ofTokens (Trial.fragment target))
  absent : tokens = none → ∀ place : Place V, place.passes condition = true
  spelled (list : List (Token Trial)) : list ∈ tokens → ∃ spelled : Condition Trial,
    Spells .disjunction list spelled ∧ ∀ (place : Place V) (outer : Expr → Option V),
      decide (spelled.truth (Trial.truth place outer) = .yes) = place.passes condition

namespace Owned

variable [LinearOrder V] {target : Target} {condition : Option Predicate}
  {tokens : Option (List (Token Trial))}

theorem meets (owned : Owned V target condition tokens) (place : Place V) (outer : Expr → Option V) :
    place.meets outer tokens = place.passes condition := by
  cases tokens with
  | none => exact (owned.absent rfl place).symm
  | some list =>
    obtain ⟨spelled, spells, same⟩ := owned.spelled list rfl
    rw [← same place outer]
    simp [Place.meets, Condition.read_eq_some_iff.mpr spells]

end Owned

end PortableSql
