import PortableSql.Proofs.QueryScope
import PortableSql.Proofs.Visit

/-! Names for the columns of a derived query, and what the query says of its own aliases.

Spanner has no list of column names behind the alias of a derived table: the names become the aliases of the
selections, in the place of their own. The rest of the query is written as it stands, and may use an own alias of
a selection in its order, its groupings or its having condition. Such a use stays valid if and only if the
selection is given the alias that it has already (`Query.keepsAliases_withAliases`).
-/

set_option autoImplicit false

namespace PortableSql

namespace Query

/-- The alias of a selection. -/
def alias? (nested : Query) (i : Nat) : Option String :=
  nested.selections[i]?.bind (·.aliasName)

/-- The nodes that may use the aliases of the selections. -/
def behindSelections (nested : Query) : List Node :=
  nested.groupBy.map .item ++ Predicate.visited nested.having ++ nested.orderBy.map (.expr ·.expr)

/-- Whether a column without a qualifier is written in an order, a grouping or a having condition. -/
def Uses (nested : Query) (name : String) : Prop :=
  ∃ node ∈ nested.behindSelections, ∃ column : ColumnRef, Dialect.spanner.Visits node (.expr (.column column)) ∧
    column.qualifier = none ∧ column.name = name

/-- Whether all selections of a query whose aliases it uses have the same aliases in another query. -/
def KeepsAliases (nested rendered : Query) : Prop :=
  ∀ i name, nested.alias? i = some name → nested.Uses name → rendered.alias? i = some name

/-- As many names as there are selections are all the aliases that the selections have. -/
theorem alias?_withAliases {nested : Query} {names : List String} (same : nested.selections.length = names.length)
    (i : Nat) : (nested.withAliases names).alias? i = names[i]? := by
  unfold alias? withAliases Selection.withAliases
  rw [List.getElem?_mapIdx]
  by_cases bound : i < names.length
  · have selected : i < nested.selections.length := same ▸ bound
    rw [List.getElem?_eq_getElem selected, List.getElem?_eq_getElem bound]
    rfl
  · have beyond : nested.selections.length ≤ i := by omega
    rw [List.getElem?_eq_none beyond, List.getElem?_eq_none (Nat.not_lt.mp bound)]
    rfl

theorem keepsAliases_withAliases {nested : Query} {names : List String}
    (same : nested.selections.length = names.length) :
    nested.KeepsAliases (nested.withAliases names) ↔
      ∀ i name, nested.alias? i = some name → nested.Uses name → names[i]? = some name := by
  unfold KeepsAliases
  simp only [alias?_withAliases same]

end Query

namespace Session

/-- What Spanner writes of a derived query with names for its columns: its select clause with the names as aliases,
and behind it what there is without names. So the query has the names for its aliases and no others, and uses its
own ones still; it keeps those that it uses if and only if they are the names of their selections. -/
theorem derived_aliases (session : Session) {table : DerivedTable} {nested : Query}
    (spanner : session.target.dialect = .spanner) (source : table.source = .query nested)
    (named : table.columnNames ≠ []) (accepted : (session.write (.table (.derived table))).2 = none) :
    (∃ rest, session.textOf (.query nested {}) =
          session.textOf (.selectClause nested.distinct nested.selections {}) ++ rest ∧
        session.textOf (.table (.derived table)) =
          (if table.lateral then "unnest(array(" else "(")
            ++ (session.textOf (.selectClause nested.distinct (nested.withAliases table.columnNames).selections
              ⟨table.lateral, []⟩) ++ rest)
            ++ (if table.lateral then "))" else ")") ++ " " ++ table.aliasName) ∧
      (∀ i, (nested.withAliases table.columnNames).alias? i = table.columnNames[i]?) ∧
      (nested.KeepsAliases (nested.withAliases table.columnNames) ↔
        ∀ i name, nested.alias? i = some name → nested.Uses name → table.columnNames[i]? = some name) := by
  obtain ⟨given, _, written⟩ := session.derived_query spanner source accepted
  have same := Query.length_selections given named
  refine ⟨?_, Query.alias?_withAliases same, Query.keepsAliases_withAliases same⟩
  obtain ⟨rest, follows⟩ := session.query_rest nested
  have clause : session.textOf (.selectClause nested.distinct nested.selections ⟨table.lateral, table.columnNames⟩) =
      session.textOf (.selectClause nested.distinct (nested.withAliases table.columnNames).selections
        ⟨table.lateral, []⟩) := by
    rw [textOf_selectClause, textOf_selectClause, session.textOf_withAliases nested.selections _ table.lateral]
    rfl
  refine ⟨rest, follows {}, ?_⟩
  rw [written, follows, clause]

/-- The names are the aliases that the selections have, in the order of one of them. -/
theorem derived_aliases_kept :
    let session : Session := ⟨⟨.spanner, .spanner⟩, [], []⟩
    let nested : Query := { Query.empty with
      selections := [⟨.column { name := "a" }, some "x"⟩]
      sources := [⟨.named ⟨"t", none⟩, []⟩]
      orderBy := [⟨.column { name := "x" }, false, none⟩] }
    let table : DerivedTable := ⟨.query nested, "d", ["x"], false⟩
    session.target.dialect = .spanner ∧ table.source = .query nested ∧ table.columnNames ≠ [] ∧
      (session.write (.table (.derived table))).2 = none ∧
      session.textOf (.table (.derived table)) = "(select a x from t order by x) d" ∧
      nested.Uses "x" ∧ nested.KeepsAliases (nested.withAliases ["x"]) := by
  intro session nested table
  have named : table.columnNames ≠ [] := List.cons_ne_nil _ _
  have accepted : (session.write (.table (.derived table))).2 = none := rfl
  have used : nested.Uses "x" := ⟨_, .head _, { name := "x" }, .refl, rfl, rfl⟩
  have kept := (derived_aliases session rfl rfl named accepted).2.2.mpr fun i name own _ => by
    match i with
    | 0 => exact own
    | i + 1 => contradiction
  exact ⟨rfl, rfl, named, accepted, by decide +kernel, used, kept⟩

/-- The order is by an alias that is gone: the selection has the name of the column instead. -/
theorem derived_aliases_lost :
    let session : Session := ⟨⟨.spanner, .spanner⟩, [], []⟩
    let nested : Query := { Query.empty with
      selections := [⟨.column { name := "a" }, some "x"⟩]
      sources := [⟨.named ⟨"t", none⟩, []⟩]
      orderBy := [⟨.column { name := "x" }, false, none⟩] }
    let table : DerivedTable := ⟨.query nested, "d", ["c"], false⟩
    (session.write (.table (.derived table))).2 = none ∧
      session.textOf (.table (.derived table)) = "(select a c from t order by x) d" ∧
      nested.alias? 0 = some "x" ∧ nested.Uses "x" ∧
      ¬ nested.KeepsAliases (nested.withAliases table.columnNames) := by
  intro session nested table
  have used : nested.Uses "x" := ⟨_, .head _, { name := "x" }, .refl, rfl, rfl⟩
  refine ⟨rfl, by decide +kernel, rfl, used, fun keeps => ?_⟩
  have lost : (nested.withAliases ["c"]).alias? 0 = some "x" := keeps 0 "x" rfl used
  exact absurd lost (by decide +kernel)

end Session

end PortableSql
