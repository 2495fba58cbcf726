import PortableSql.Proofs.WrittenTree
import PortableSql.Writer.Statement

/-! Statements and pieces write their fragments.

The target of a change is the only part that looks at the writer, and it looks at the innermost clause alone;
everything else writes the same in every clause (`Writes.piece`). So a statement that is written by an empty
writer is what it is rendered to (`Statement.write_eq_render`).
-/

set_option autoImplicit false

namespace PortableSql

namespace Writes

variable {target : Target}

theorem dmlTarget (around : Option Clause) (table : NamedTable) :
    WritesIn target.config around (Write.dmlTarget target table) (Render.dmlTarget target around table) := by
  refine WritesIn.offer .dmlTarget ?_ (tableName table.table around)
  obtain ⟨dialect, config⟩ := target
  cases dialect with
  | generic => exact Answers.standard around
  | spanner => exact AnswersIn.always (spannerTarget around table)

theorem returning {config : Config} (columns : List ColumnRef) :
    Writes config (Write.returning columns) (Render.returning columns) := by
  have list : WritesAll config (columns.map Write.column) (columns.map (·.fragment)) :=
    WritesAll.map columns column
  have all := clause .returning " returning " list
  rwa [List.isEmpty_map, List.isEmpty_map] at all

theorem assignments (items : List Assignment) :
    Writes target.config (Write.assignments target items) (Render.assignments target items) := by
  refine separated "," (WritesAll.map items fun item => ?_)
  rw [Fragment.append_assoc]
  exact (append item.column.name).seq ((append "=").seq (expr item.value))

theorem setClause (items : List Assignment) :
    Writes target.config (Write.setClause target items) (Render.setClause target items) :=
  inClause ((append " set ").seq (assignments items) _)

theorem restricted (inner : Clause) (keyword : String) (predicate : Option Predicate) :
    Writes target.config (Write.restricted target inner keyword predicate)
      (Render.restriction target inner keyword predicate) :=
  restriction inner keyword (condition predicate)

theorem deleteClause (table : NamedTable) :
    Writes target.config (Write.deleteClause target table) (Render.deleteClause target table) :=
  inClause ((append "delete from " _).seq (dmlTarget _ table))

theorem updateClause (table : NamedTable) :
    Writes target.config (Write.updateClause target table) (Render.updateClause target table) :=
  inClause ((append "update " _).seq (dmlTarget _ table))

theorem delete (statement : Delete) :
    Writes target.config (Write.delete target statement) (Render.delete target statement) := by
  have head : Writes target.config (Write.deleteClause target statement.target) _ := deleteClause statement.target
  have returned : Writes target.config (Write.returning statement.returning) _ := returning statement.returning
  refine offer .delete ?_ ?_
  · exact .ofSpanner (·.delete statement.restriction _ _) (·.delete statement.restriction _ _) rfl rfl
      (.unrestricted statement.restriction head returned)
  · rw [Fragment.append_assoc]
    exact head.seq ((restricted _ _ statement.restriction).seq returned)

theorem update (statement : Update) :
    Writes target.config (Write.update target statement) (Render.update target statement) := by
  have head : Writes target.config (Write.updateClause target statement.target) _ := updateClause statement.target
  have items : Writes target.config (Write.setClause target statement.assignments) _ :=
    setClause statement.assignments
  have returned : Writes target.config (Write.returning statement.returning) _ := returning statement.returning
  refine offer .update ?_ ?_
  · exact .ofSpanner (·.update statement.restriction _ _ _) (·.update statement.restriction _ _ _) rfl rfl
      (.unrestricted statement.restriction (head.seq items) returned)
  · simp only [Fragment.append_assoc]
    exact head.seq (items.seq ((restricted _ _ statement.restriction).seq returned))

theorem insertSource (source : InsertSource) :
    Writes target.config (Write.insertSource target source) (Render.insertSource target source) := by
  cases source with
  | query nested => exact (query nested).inScope {}
  | values rows =>
    rw [Write.insertSource, Render.insertSource]
    split
    · exact append _
    · have each : WritesAll target.config
          (rows.map fun row => Write.parens (Write.separated "," (Write.exprs target row)))
          (rows.map fun row => .parens (.separated "," (Render.exprs target row))) :=
        WritesAll.map rows fun row => parens (separated "," (exprs row))
      exact inClause ((append "values ").seq (separated "," each) _)

theorem constraint {config : Config} (name : Option String) (columns : List String) :
    Writes config (Write.constraint name columns) (Render.constraint name columns) := by
  cases name with
  | some name => exact (append " on constraint ").seq (append name)
  | none => exact onlyIf _ ((append " ").seq (parens (names columns)))

theorem conflictClause (conflict : Conflict) :
    Writes target.config (Write.conflictClause target conflict) (Render.conflictClause target conflict) := by
  obtain ⟨action, name, columns, predicate⟩ := conflict
  unfold Render.conflictClause
  rw [Fragment.append_assoc]
  refine inClause ((append " on conflict").seq ((constraint name columns).seq ?_) _)
  cases action with
  | doNothing => exact append _
  | doUpdate items =>
    show Writes target.config _ (_ ++ _ ++ _)
    rw [Fragment.append_assoc]
    exact (append _).seq ((assignments items).seq (restricted _ _ predicate))

theorem insert (statement : Insert) :
    Writes target.config (Write.insert target statement) (Render.insert target statement) := by
  obtain ⟨table, columns, source, conflict, returned⟩ := statement
  have place : WritesIn target.config (some .insert) (Write.dmlTarget target table) _ :=
    dmlTarget (some .insert) table
  have rows : Writes target.config (Write.insertSource target source) _ := insertSource source
  have list : Writes target.config
      (Write.onlyIf (!columns.isEmpty) do Write.append " "; Write.parens (Write.names columns))
      (.onlyIf (!columns.isEmpty) (.text " " ++ .parens (.names columns))) :=
    onlyIf _ ((append " ").seq (parens (names columns)))
  have usual (conflict : Option Conflict) :
      Writes target.config (Write.standardInsert target ⟨table, columns, source, conflict, returned⟩)
        (.inClause .insert (.text "insert into " ++ (Render.dmlTarget target (some .insert) table
          ++ .onlyIf (!columns.isEmpty) (.text " " ++ .parens (.names columns))))
          ++ (.text " " ++ (Render.insertSource target source
            ++ (.ifSome conflict (Render.conflictClause target) ++ Render.returning returned)))) :=
    (inClause ((append _ _).seq (place.seq (list _)))).seq ((append " ").seq (rows.seq
      ((ifSome_self conflict conflictClause).seq (returning returned))))
  cases conflict with
  | none =>
    simp only [Write.insert, Render.insert, Fragment.append_assoc]
    exact usual none
  | some conflict =>
    simp only [Write.insert, Render.insert, Fragment.append_assoc]
    refine offer .insertWithConflict ?_ (usual (some conflict))
    exact .ofSpanner (·.insertWithConflict _ conflict _ _ _) (·.insertWithConflict _ conflict _ _ _) rfl rfl
      (.always (spannerInsert _ conflict place rows (returning returned)))

theorem statement (statement : Statement) :
    Writes target.config (Write.statement target statement) (Render.statement target statement) := by
  cases statement with
  | select nested => exact (query nested).inScope {}
  | insert nested => exact insert nested
  | update nested => exact update nested
  | delete nested => exact delete nested

/-- A piece writes its fragment in the innermost clause, whatever was written before. -/
theorem piece (around : Option Clause) (piece : Piece) :
    WritesIn target.config around (Write.piece target piece) (piece.fragment target around) := by
  cases piece with
  | dmlTarget table => exact dmlTarget around table
  | text words => exact append words around
  | use name => exact register name around
  | parameter node => exact addParameter node around
  | statement node => exact statement node around
  | expr node => exact expr node around
  | literal node => exact value node around
  | column node => exact column node around
  | arithmetic left op right => exact arithmetic left op right (expr left) (expr right) around
  | standardArithmetic left op right => exact standardArithmetic (expr left) op (expr right) around
  | application name left right => exact functionOf name (.cons (expr left) (.cons (expr right) .nil)) around
  | function call => exact function call around
  | window call partitionBy orderBy =>
    exact window (function call) (partitionItems partitionBy) (sortItems orderBy) around
  | partitionItem item => exact partitionItem item (expr item) around
  | standardPartitionItem item => exact standardPartitionItem item (expr item) around
  | summarization kind groupings => exact functionOf kind.text (exprs groupings) around
  | sortItem item => exact sortItem (expr item.expr) item.descending item.nulls around
  | predicate node => exact predicate node around
  | restriction inner keyword node => exact restricted inner keyword node around
  | comparison left op right => exact comparison (operand left) op (operand right) around
  | nativeComparison left op right => exact native (operand left) op (operand right) around
  | emulatedComparison left op right => exact emulate rowComparison (operand left) op (operand right) around
  | rowComparison left right op => exact rowComparison op (exprs left) (exprs right) around
  | rowExpansion left right op ranges => exact expand ranges op (exprs left) (exprs right) around
  | inArray test array => exact inArray (expr test) (expr array) around
  | like node => exact like node (expr node.expr) (expr node.pattern) (optional node.escape) around
  | standardLike node => exact standardMatch _ _ (expr node.expr) (expr node.pattern) (optional node.escape) around
  | loweredLike node => exact loweredMatch _ (expr node.expr) (expr node.pattern) (optional node.escape) around
  | query node scope => exact (query node).inScope scope around
  | selectClause distinct list scope => exact selectClause distinct scope (selectionList list) around
  | selections list scope => exact selections scope (selectionList list) around
  | subquery node => exact (query node).subquery around
  | sources list => exact separated "," (groups list) around
  | table node => exact table node around
  | queryPart node names => exact queryPart node (query node) names around
  | derivedAlias node => exact derivedAlias node around
  | tableAlias node => exact aliasText node.aliasName around
  | renamed node names => exact renamed node (query node) names around
  | offsetFetch node => exact offsetFetch (optional node.offset) (optional node.fetch) around
  | limitOffset node => exact limitOffset (optional node.offset) (optional node.fetch) around
  | standardDmlTarget table => exact tableName table.table around
  | returning columns => exact returning columns around
  | assignments items => exact assignments items around
  | setClause items => exact setClause items around
  | insertSource source => exact insertSource source around
  | conflictClause conflict => exact conflictClause conflict around
  | deleteClause table => exact deleteClause table around
  | updateClause table => exact updateClause table around

end Writes

end PortableSql
