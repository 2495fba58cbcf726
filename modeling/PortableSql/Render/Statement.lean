import PortableSql.Render.Tree
import PortableSql.Rendering

/-! The rendering of statements, clause by clause. -/

set_option autoImplicit false

namespace PortableSql.Render

variable (target : Target)

def standardDmlTarget (table : NamedTable) : Fragment :=
  .table table.table

def dmlTarget (clause : Option Clause) (table : NamedTable) : Fragment :=
  .offer .dmlTarget (target.overrides.dmlTarget clause table) (standardDmlTarget table)

def returning (columns : List ColumnRef) : Fragment :=
  .onlyIf (!columns.isEmpty)
    (.inClause .returning (.text " returning " ++ .separated "," (columns.map (·.fragment))))

def assignments (items : List Assignment) : Fragment :=
  .separated "," (items.map fun item =>
    .text item.column.name ++ .text "=" ++ expr target item.value)

def setClause (items : List Assignment) : Fragment :=
  .inClause .assignments (.text " set " ++ assignments target items)

def restriction (clause : Clause) (keyword : String) (predicate : Option Predicate) : Fragment :=
  RowValue.restriction clause keyword (condition target predicate)

def deleteClause (table : NamedTable) : Fragment :=
  .inClause .delete (.text "delete from " ++ dmlTarget target (some .delete) table)

def delete (statement : Delete) : Fragment :=
  let clause := deleteClause target statement.target
  let columns := returning statement.returning
  .offer .delete (target.overrides.delete statement.restriction clause columns)
    (clause ++ restriction target .restriction " where " statement.restriction ++ columns)

def updateClause (table : NamedTable) : Fragment :=
  .inClause .update (.text "update " ++ dmlTarget target (some .update) table)

def update (statement : Update) : Fragment :=
  let clause := updateClause target statement.target
  let items := setClause target statement.assignments
  let columns := returning statement.returning
  .offer .update (target.overrides.update statement.restriction clause items columns)
    (clause ++ items ++ restriction target .restriction " where " statement.restriction ++ columns)

/-- The rows of an insertion: a list of rows, default values, or the rows of a query. -/
def insertSource : InsertSource → Fragment
  | .values rows =>
    if rows.isEmpty then .text "default values"
    else .inClause .values (.text "values " ++ .separated "," (rows.map fun row =>
      .parens (.separated "," (exprs target row))))
  | .query nested => (query target nested).inScope {}

def constraint (name : Option String) (columns : List String) : Fragment :=
  match name with
  | some name => .text " on constraint " ++ .text name
  | none => .onlyIf (!columns.isEmpty) (.text " " ++ .parens (.names columns))

def conflictClause (conflict : Conflict) : Fragment :=
  .inClause .conflict (.text " on conflict"
    ++ constraint conflict.constraintName conflict.constraintColumns
    ++ match conflict.action with
      | .doNothing => .text " do nothing"
      | .doUpdate items =>
        .text " do update set " ++ assignments target items
          ++ restriction target .restriction " where " conflict.predicate)

def insert (statement : Insert) : Fragment :=
  let table := dmlTarget target (some .insert) statement.target
  let rows := insertSource target statement.source
  let columns := returning statement.returning
  let standard :=
    .inClause .insert (.text "insert into " ++ table
        ++ .onlyIf (!statement.columns.isEmpty) (.text " " ++ .parens (.names statement.columns)))
      ++ .text " " ++ rows ++ .ifSome statement.conflict (conflictClause target) ++ columns
  match statement.conflict with
  | none => standard
  | some conflict =>
    .offer .insertWithConflict
      (target.overrides.insertWithConflict statement conflict table rows columns) standard

def statement : Statement → Fragment
  | .select nested => (query target nested).inScope {}
  | .insert nested => insert target nested
  | .update nested => update target nested
  | .delete nested => delete target nested

end PortableSql.Render

namespace PortableSql

def Statement.render (statement : Statement) (target : Target) : Except Error Rendering :=
  (Render.statement target statement).rendering target.config

def Query.render (query : Query) (target : Target) : Except Error Rendering :=
  ((Render.query target query).inScope {}).rendering target.config

end PortableSql
