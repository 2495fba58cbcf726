import PortableSql.Proofs.Failure
import PortableSql.Proofs.Filter
import PortableSql.Proofs.Traversal

/-! What the scope of a query changes.

A scope acts on the select clause of its query: it adds words to it and gives the selections other aliases. What
follows the clause is the same in every scope (`Session.query_rest`), and so is all that goes with the text
(`Session.query_alike`). Forced aliases are as good as aliases of the selections' own (`Render.selections_forced`),
and a derived query with names for its columns is written as a query with these names (`Session.derived_query`).
-/

set_option autoImplicit false

namespace PortableSql

def Mark.isText : Mark → Bool
  | .text _ => true
  | _ => false

theorem Mark.filter_isText_within (clause : Option Clause) (marks : List Mark) :
    (marks.map (within clause)).filter (!·.isText) = (marks.filter (!·.isText)).map (within clause) := by
  rw [List.filter_map, comp_within _ fun _ _ _ _ => rfl]

namespace Fragment

/-- A fragment without its texts. -/
def silent (fragment : Fragment) : Fragment :=
  fragment.filter (!·.isText)

@[simp] theorem silent_text (words : String) : (text words).silent = nil := rfl

@[simp] theorem silent_append (first second : Fragment) : (first ++ second).silent = first.silent ++ second.silent :=
  filter_append first second

theorem silent_onlyIf_text (condition : Bool) (words : String) : (onlyIf condition (text words)).silent = nil := by
  cases condition <;> rfl

theorem silent_separated (separator : String) (fragments : List Fragment) :
    (separated separator fragments).silent = (fragments.map silent).foldr (· ++ ·) nil := by
  induction fragments with
  | nil => rfl
  | cons first rest ih =>
    cases rest with
    | nil => simp [separated, append_nil]
    | cons second rest =>
      simpa [separated_cons_cons, nil_append, append_nil, append_assoc] using congrArg (first.silent ++ ·) ih

theorem failure_of_silent {first second : Fragment} (same : first.silent = second.silent) :
    first.failure = second.failure := by
  have failures := congrArg Fragment.failure same
  exact failures

theorem silent_inClause_congr {first second : Fragment} (same : first.silent = second.silent) (clause : Clause) :
    (inClause clause first).silent = (inClause clause second).silent := by
  have blind (fragment : Fragment) : (inClause clause fragment).silent = inClause clause fragment.silent :=
    congrArg (Fragment.mk · fragment.failure) (Mark.filter_isText_within clause fragment.marks)
  rw [blind, blind, same]

theorem silent_offer_congr (construct : Construct) {first second : Fragment} (same : first.silent = second.silent)
    (standard : Fragment) :
    (offer construct (some first) standard).silent = (offer construct (some second) standard).silent := by
  have outcomes : outcome (some first) = outcome (some second) := by rw [outcome, outcome, failure_of_silent same]
  rw [offer, offer, silent_append, silent_append, outcomes, Option.getD_some, Option.getD_some, same]

end Fragment

namespace Render

variable {target : Target}

theorem silent_selections (list : List (Fragment × Option String)) (first second : Scope) :
    (selections first list).silent = (selections second list).silent := by
  have name (name : String) : (Fragment.aliasText name).silent = .nil := rfl
  have own (name : Option String) : (Fragment.ifSome name .aliasText).silent = .nil := by cases name <;> rfl
  have each (names : List String) : (aliased list names).map Fragment.silent = list.map (·.1.silent) := by
    induction list generalizing names with
    | nil => rfl
    | cons selection list ih => cases names <;> simp [aliased, ih, name, own, Fragment.append_nil]
  unfold selections
  split
  · rfl
  · rw [Fragment.silent_separated, Fragment.silent_separated, each, each]

theorem silent_selectClause (distinct : Bool) (list : List (Fragment × Option String)) (first second : Scope) :
    (selectClause target distinct first list).silent = (selectClause target distinct second list).silent := by
  have same := silent_selections list first second
  obtain ⟨dialect, config⟩ := target
  cases dialect with
  | generic =>
    simp [selectClause, Target.overrides, Dialect.overrides, Overrides.none, Fragment.offer,
      Fragment.silent_onlyIf_text, same]
  | spanner =>
    apply Fragment.silent_offer_congr
    simp [Spanner.selectClause, Fragment.silent_onlyIf_text, same]

/-- What a query has after its select clause. -/
def queryRest (target : Target) (parts : QueryParts) : Fragment :=
  .onlyIf (!parts.sources.isEmpty) (.inClause .sources (.text " from " ++ .separated "," parts.sources))
    ++ RowValue.restriction .restriction " where " parts.restriction
    ++ RowValue.grouping parts.groupBy
    ++ RowValue.restriction .having " having " parts.having
    ++ .onlyIf (!parts.orderBy.isEmpty) (.inClause .orderBy (.text " order by " ++ .separated "," parts.orderBy))
    ++ offsetFetch target parts.offset parts.fetch
    ++ .ifSome parts.lock (locking target)

theorem queryInScope_eq (parts : QueryParts) (scope : Scope) :
    queryInScope target parts scope =
      .inClause .select (selectClause target parts.distinct scope parts.selections) ++ queryRest target parts := by
  simp only [queryInScope, queryRest, Fragment.append_assoc]

theorem silent_query (nested : Query) (first second : Scope) :
    ((query target nested).inScope first).silent = ((query target nested).inScope second).silent := by
  have head : (selectClause target nested.distinct first (selectionList target nested.selections)).silent =
      (selectClause target nested.distinct second (selectionList target nested.selections)).silent :=
    silent_selectClause ..
  rw [query_inScope, query_inScope, query_parts, queryInScope_eq, queryInScope_eq, Fragment.silent_append,
    Fragment.silent_append, Fragment.silent_inClause_congr head]

end Render

/-- Selections with these aliases instead of their own, as far as there are any. -/
def Selection.withAliases (list : List Selection) (aliases : List String) : List Selection :=
  list.mapIdx fun i selection => { selection with aliasName := aliases[i]?.or selection.aliasName }

def Query.withAliases (nested : Query) (aliases : List String) : Query :=
  { nested with selections := Selection.withAliases nested.selections aliases }

namespace Render

variable {target : Target}

theorem aliased_eq_own (list : List Selection) (aliases : List String) :
    aliased (selectionList target list) aliases =
      aliased (selectionList target (Selection.withAliases list aliases)) [] := by
  simp only [selectionList_eq_map, aliased_nil]
  induction list generalizing aliases with
  | nil => rfl
  | cons selection list ih =>
    cases aliases with
    | nil => simpa [aliased, Selection.withAliases, List.mapIdx_cons] using ih []
    | cons forced aliases => simpa [aliased, Selection.withAliases, List.mapIdx_cons, Fragment.ifSome] using ih aliases

/-- Selections whose aliases are forced on them are written like selections of these aliases. -/
theorem selections_forced (list : List Selection) (scope : Scope) :
    selections scope (selectionList target list) =
      selections {} (selectionList target (Selection.withAliases list scope.aliases)) := by
  have empty : (selectionList target list).isEmpty =
      (selectionList target (Selection.withAliases list scope.aliases)).isEmpty := by
    cases list <;> simp [Selection.withAliases, selectionList_eq_map]
  unfold selections
  rw [empty, aliased_eq_own]

end Render

namespace Session

variable (session : Session)

/-- Fragments that are the same without their texts add the same but texts. -/
theorem finish_add {first second : Fragment} (same : first.silent = second.silent) :
    (session.add first).finish.bindings = (session.add second).finish.bindings ∧
      (session.add first).finish.tables = (session.add second).finish.tables ∧
      (session.add first).finish.lock = (session.add second).finish.lock := by
  have silence (fragment : Fragment) :
      (session.add fragment).marks.filter (!·.isText) = session.marks.filter (!·.isText) ++
        (fragment.silent.marks.map (Mark.within session.clause?)) := by
    rw [add, List.filter_append, Mark.filter_isText_within]
    rfl
  have marks : (session.add first).marks.filter (!·.isText) = (session.add second).marks.filter (!·.isText) := by
    rw [silence, silence, same]
  have view {α : Type} (of : Mark → Option α) (blind : ∀ words, of (.text words) = none) :
      (session.add first).marks.filterMap of = (session.add second).marks.filterMap of := by
    have kept (marks : List Mark) : (marks.filter (!·.isText)).filterMap of = marks.filterMap of := by
      refine Mark.filterMap_filter (fun mark text => ?_) marks
      cases mark with
      | text words => exact blind words
      | literal | placeholder | table | lock | offer => contradiction
    rw [← kept, marks, kept]
  simp only [finish, Rendering.ofMarks, Mark.bindings, Mark.parameters, Mark.tables, Mark.lockStrategy,
    view Mark.parameter? fun _ => rfl, view Mark.table? fun _ => rfl, view Mark.lockStrategy? fun _ => rfl, and_self]

/-- In all scopes a query fails alike, and adds the same but texts. -/
theorem query_alike (nested : Query) (first second : Scope) :
    (session.write (.query nested first)).2 = (session.write (.query nested second)).2 ∧
      (session.write (.query nested first)).1.finish.bindings =
        (session.write (.query nested second)).1.finish.bindings ∧
      (session.write (.query nested first)).1.finish.tables =
        (session.write (.query nested second)).1.finish.tables ∧
      (session.write (.query nested first)).1.finish.lock = (session.write (.query nested second)).1.finish.lock := by
  have same : ((Render.query session.target nested).inScope first).silent =
      ((Render.query session.target nested).inScope second).silent := Render.silent_query ..
  exact ⟨Fragment.failure_of_silent same, session.finish_add same⟩

/-- What follows the select clause of a query is the same in every scope. -/
theorem query_rest (nested : Query) : ∃ rest, ∀ scope, session.textOf (.query nested scope) =
    session.textOf (.selectClause nested.distinct nested.selections scope) ++ rest := by
  let parts := (Render.query session.target nested).parts
  let clause (scope : Scope) := Render.selectClause session.target parts.distinct scope parts.selections
  let rest := Render.queryRest session.target parts
  have failures (scope : Scope) : (clause scope).failure = (clause {}).failure :=
    Fragment.failure_of_silent (Render.silent_selectClause parts.distinct parts.selections scope {})
  refine ⟨if (clause {}).failure = none then rest.sql session.target.config else "", fun scope => ?_⟩
  have written : session.textOf (.query nested scope) =
      (Fragment.inClause .select (clause scope) ++ rest).sql session.target.config := by
    rw [textOf_eq, Piece.fragment, Render.query_inScope, Render.queryInScope_eq]
  have head : session.textOf (.selectClause nested.distinct nested.selections scope) =
      (clause scope).sql session.target.config := by
    simp only [textOf_eq, Piece.fragment, clause, parts, Render.query_parts]
  rw [written, head]
  cases failed : (clause {}).failure with
  | none => simp [Fragment.sql_append, failures scope, failed]
  | some cause => simp [Fragment.sql, Fragment.marks_append, failures scope, failed, Fragment.inClause,
      Mark.sqlText_within]

/-- The select clause in a scope: words for a correlated query, and the selections. -/
theorem textOf_selectClause (distinct : Bool) (list : List Selection) (scope : Scope) :
    session.textOf (.selectClause distinct list scope) =
      "select " ++ (if session.target.dialect = .spanner ∧ scope.correlated = true then "as struct " else "")
        ++ (if distinct then "distinct " else "") ++ session.textOf (.selections list scope) := by
  obtain ⟨⟨dialect, config⟩, clauses, marks⟩ := session
  rw [textOf_eq, textOf_eq]
  cases dialect with
  | generic =>
    have words : Fragment.Adds config (.onlyIf distinct (.text "distinct ")) _ :=
      (Fragment.Adds.text "distinct ").onlyIf distinct
    simp [Piece.fragment, Render.selectClause, Target.overrides, Dialect.overrides, Overrides.none, Fragment.offer,
      Fragment.sql_append, Fragment.failure_append, words.whole, words.sql]
  | spanner =>
    have words : Fragment.Adds config (.onlyIf distinct (.text "distinct ")) _ :=
      (Fragment.Adds.text "distinct ").onlyIf distinct
    have struct : Fragment.Adds config (.onlyIf scope.correlated (.text "as struct ")) _ :=
      (Fragment.Adds.text "as struct ").onlyIf scope.correlated
    simp [Piece.fragment, Render.selectClause, Target.overrides, Dialect.overrides, Spanner.overrides,
      Spanner.selectClause, Fragment.offer, Fragment.sql_append, Fragment.failure_append, words.whole, words.sql,
      struct.whole, struct.sql]

/-- Selections that are written whole, each with its alias. -/
theorem textOf_selections {list : List Selection}
    (whole : ∀ selection ∈ list, (session.write (.expr selection.expr)).2 = none) :
    session.textOf (.selections list {}) =
      if list.isEmpty then "*" else ",".intercalate (list.map fun selection =>
        session.textOf (.expr selection.expr) ++ selection.aliasName.elim "" fun name => " " ++ name) := by
  have each : ∀ fragment ∈ list.map fun selection => Render.expr session.target selection.expr
      ++ .ifSome selection.aliasName .aliasText, fragment.failure = none := by
    refine List.forall_mem_map.mpr fun selection mem => ?_
    have own : (Render.expr session.target selection.expr).failure = none := whole selection mem
    cases name : selection.aliasName <;> simp [Fragment.failure_append, own, Fragment.ifSome, Fragment.aliasText]
  have texts : (list.map fun selection => (Render.expr session.target selection.expr
        ++ .ifSome selection.aliasName .aliasText).sql session.target.config) =
      list.map fun selection => session.textOf (.expr selection.expr)
        ++ selection.aliasName.elim "" fun name => " " ++ name := by
    refine List.map_congr_left fun selection mem => ?_
    have own : (Render.expr session.target selection.expr).failure = none := whole selection mem
    cases name : selection.aliasName <;>
      simp [Fragment.sql_append, own, Fragment.ifSome, Fragment.aliasText, textOf_eq, Piece.fragment]
  have listed : Fragment.Adds session.target.config (.separated "," _) _ := .separated each
  have separated := listed.sql
  rw [List.map_map] at separated
  rw [textOf_eq, Piece.fragment, Render.selections, Render.aliased_nil, Render.selectionList_eq_map, List.map_map,
    List.isEmpty_map]
  cases given : list.isEmpty with
  | true => simp
  | false => exact separated.trans (congrArg _ texts)

/-- Forced aliases are written like aliases of the selections' own. -/
theorem textOf_withAliases (list : List Selection) (scope : Scope) (correlated : Bool) :
    session.textOf (.selections list scope) =
      session.textOf (.selections (Selection.withAliases list scope.aliases) ⟨correlated, []⟩) := by
  rw [textOf_eq, textOf_eq, Piece.fragment, Render.selections_forced]
  rfl

/-- The selections in a scope, each with the alias that the scope forces on it, else with its own. -/
theorem textOf_forced {list : List Selection} (scope : Scope)
    (whole : ∀ selection ∈ list, (session.write (.expr selection.expr)).2 = none) (inhabited : list ≠ []) :
    session.textOf (.selections list scope) = ",".intercalate (list.mapIdx fun i selection =>
      session.textOf (.expr selection.expr)
        ++ (scope.aliases[i]?.or selection.aliasName).elim "" fun name => " " ++ name) := by
  have own := session.textOf_withAliases list scope false
  have each : ∀ selection ∈ Selection.withAliases list scope.aliases,
      (session.write (.expr selection.expr)).2 = none := by
    intro selection mem
    obtain ⟨i, bound, rfl⟩ := List.mem_mapIdx.mp mem
    exact whole list[i] (List.getElem_mem bound)
  have present : (Selection.withAliases list scope.aliases).isEmpty = false := by
    simpa [Selection.withAliases] using inhabited
  rw [own, session.textOf_selections each, present, if_neg Bool.false_ne_true]
  exact congrArg _ (List.ext_getElem (by simp [Selection.withAliases]) (by simp [Selection.withAliases]))

/-- A derived query that Spanner accepts stands in parentheses or, if it is lateral, as an array, in a scope with the
names of the columns. Each of its columns is selected by itself, and has one name. -/
theorem derived_query {table : DerivedTable} {nested : Query} (spanner : session.target.dialect = .spanner)
    (source : table.source = .query nested) (accepted : (session.write (.table (.derived table))).2 = none) :
    nested.namesRefused? table.columnNames = none ∧
      (session.write (.query nested ⟨table.lateral, table.columnNames⟩)).2 = none ∧
      session.textOf (.table (.derived table)) =
        (if table.lateral then "unnest(array(" else "(")
          ++ session.textOf (.query nested ⟨table.lateral, table.columnNames⟩)
          ++ (if table.lateral then "))" else ")") ++ " " ++ table.aliasName := by
  obtain ⟨⟨dialect, config⟩, clauses, marks⟩ := session
  obtain ⟨origin, aliasName, names, lateral⟩ := table
  obtain rfl : dialect = .spanner := spanner
  obtain rfl : origin = .query nested := source
  rw [write_failure] at accepted ⊢
  simp only [textOf_eq, Piece.fragment] at accepted ⊢
  cases lateral with
  | true =>
    have written : Render.table ⟨.spanner, config⟩ (.derived ⟨.query nested, aliasName, names, true⟩) =
        .offer .derivedTable (Spanner.derivedTable ⟨.query nested, aliasName, names, true⟩
          (.query nested (Render.query ⟨.spanner, config⟩ nested))) _ := rfl
    rw [written] at accepted ⊢
    cases refused : nested.namesRefused? names with
    | some cause => simp [Spanner.derivedTable, refused, Fragment.fail] at accepted
    | none =>
      simp only [Spanner.derivedTable, refused, if_true] at accepted ⊢
      have rows : ((Render.query ⟨.spanner, config⟩ nested).inScope ⟨true, names⟩).failure = none := by
        simp_all [Fragment.failure_append]
      refine ⟨trivial, rows, Eq.trans ?_ String.append_assoc.symm⟩
      simp [Fragment.sql_offer_some, Fragment.sql_append, Fragment.failure_append, rows, DerivedTable.aliasFragment,
        Fragment.aliasText]
  | false =>
    have written : Render.table ⟨.spanner, config⟩ (.derived ⟨.query nested, aliasName, names, false⟩) =
        .offer .derivedTable none (.onlyIf false (.text "lateral ")
          ++ .offer .queryPart (some ((Render.query ⟨.spanner, config⟩ nested).renamed nested names)) _
          ++ .offer .derivedAlias (some (.aliasText aliasName)) _) := rfl
    rw [written] at accepted ⊢
    cases refused : nested.namesRefused? names with
    | some cause => simp [RenderedQuery.renamed, refused, Fragment.fail, Fragment.failure_append] at accepted
    | none =>
      simp only [RenderedQuery.renamed, refused] at accepted ⊢
      have rows : ((Render.query ⟨.spanner, config⟩ nested).inScope ⟨false, names⟩).failure = none := by
        simp_all [Fragment.failure_append]
      refine ⟨trivial, rows, Eq.trans ?_ String.append_assoc.symm⟩
      simp [Fragment.offer, Fragment.onlyIf, Fragment.nil_append, Fragment.sql_append, Fragment.failure_append,
        Fragment.sql_parens rows, rows, Fragment.aliasText]

/-- The selections of a query that is written whole are. -/
theorem selections_whole {nested : Query} {scope : Scope} (whole : (session.write (.query nested scope)).2 = none) :
    ∀ selection ∈ nested.selections, (session.write (.expr selection.expr)).2 = none := by
  intro selection mem
  by_contra failed
  have fails : ((Render.query session.target nested).inScope scope).Fails := by
    rw [Render.query_inScope, Render.queryInScope_fails, Render.query_parts, Render.selectionList_eq_map]
    refine .inl ⟨_, List.mem_map_of_mem mem, ?_⟩
    exact Option.isSome_iff_ne_none.mpr failed
  exact Option.isSome_iff_ne_none.mp fails whole

/-- Selections that are given names, each with its own. -/
theorem textOf_named {list : List Selection} {correlated : Bool} {names : List String}
    (whole : ∀ selection ∈ list, (session.write (.expr selection.expr)).2 = none)
    (same : list.length = names.length) (named : names ≠ []) :
    session.textOf (.selections list ⟨correlated, names⟩) = ",".intercalate
      (List.zipWith (fun selection name => session.textOf (.expr selection.expr) ++ " " ++ name) list names) := by
  have inhabited : list ≠ [] := by
    rw [← List.length_pos_iff] at named ⊢
    omega
  rw [session.textOf_forced ⟨correlated, names⟩ whole inhabited]
  refine congrArg _ (List.ext_getElem (by simp [same]) fun i bound _ => ?_)
  have listed : i < names.length := by simpa [same] using bound
  simp [listed, String.append_assoc]

end Session

/-- Names that a query is not refused are as many as its selections. -/
theorem Query.length_selections {nested : Query} {names : List String} (given : nested.namesRefused? names = none)
    (named : names ≠ []) : nested.selections.length = names.length := by
  by_contra different
  unfold namesRefused? at given
  split at given
  · next empty => exact named (List.isEmpty_iff.mp empty)
  · split at given
    · contradiction
    · contradiction

end PortableSql
