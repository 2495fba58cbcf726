import PortableSql.Render.Leaf
import PortableSql.Render.Operand

/-! Names that a derived table gives to the columns of its source. -/

set_option autoImplicit false

namespace PortableSql

/-- Why names cannot be given to the columns of a query, if they cannot: every column has to be
selected by itself, and to get one name. -/
def Query.namesRefused? (query : Query) (names : List String) : Option Error :=
  if names.isEmpty then none
  else if query.selections.any fun selection => selection.expr.isStar then some .namesForStar
  else if query.selections.length ≠ names.length then
    some (.nameCount names.length query.selections.length)
  else none

def RenderedQuery.renamed (query : Query) (rendered : RenderedQuery) (names : List String) :
    Fragment :=
  match query.namesRefused? names with
  | some cause => .fail cause
  | none => .parens (rendered.inScope { aliases := names })

def DerivedTable.aliasFragment (table : DerivedTable) : Fragment :=
  .aliasText table.aliasName

end PortableSql
