import PortableSql.Proofs.Refusal

/-! What a statement notes in the standard rendering.

Beside its text a fragment has parameters, tables and choices of how locks are taken. A node notes its own
ones before or after those of the nodes that it visits (`Node.notes`), and in the generic dialect that is
exactly what its fragment has of them, in the same order (`Render.node_notes`).
-/

set_option autoImplicit false

namespace PortableSql

/-- A mark that is neither a part of the text nor an offer. -/
def Mark.isNote : Mark → Bool
  | .placeholder _ | .table _ | .lock _ _ => true
  | .text _ | .literal _ | .offer _ _ _ => false

namespace Node

/-- What a node notes before the nodes that it visits. -/
def leading : Node → List Mark
  | .statement (.insert change) => [.table change.target.table]
  | .statement (.update change) => [.table change.target.table]
  | .statement (.delete change) => [.table change.target.table]
  | .table (.named from_) => [.table from_.table]
  | .expr (.parameter parameter) => [.placeholder parameter]
  | .statement (.select _) | .query _ | .group _ | .table (.derived _) | .predicate _ | .expr _ | .item _ => []

/-- What a node notes after the nodes that it visits. -/
def trailing (config : Config) : Node → List Mark
  | .query nested =>
    nested.lock.toList.map fun lock => .lock none (Render.standardLockStrategy config lock)
  | .statement _ | .group _ | .table _ | .predicate _ | .expr _ | .item _ => []

/-- The parameters, tables and locks of a node, in the order in which the generic dialect comes to them. -/
def notes (config : Config) (node : Node) : List Mark :=
  node.leading ++ (node.visits .generic).attach.flatMap (fun inner => notes config inner.1)
    ++ node.trailing config
termination_by node.size
decreasing_by exact (below_of_mem_visits inner.2).size_lt

theorem notes_eq (config : Config) (node : Node) :
    node.notes config =
      node.leading ++ (node.visits .generic).flatMap (notes config) ++ node.trailing config := by
  rw [notes]
  simp

/-- The notes of a visited node are among those of the node that visits it. -/
theorem notes_subset {config : Config} {node inner : Node} (visited : Dialect.generic.Visits node inner) :
    inner.notes config ⊆ node.notes config := by
  induction visited with
  | refl => exact List.Subset.refl _
  | tail _ mem ih =>
    refine List.Subset.trans (fun mark own => ?_) ih
    rw [notes_eq]
    exact List.mem_append_left _ (List.mem_append_right _ (List.mem_flatMap.mpr ⟨_, mem, own⟩))

end Node

namespace Fragment

/-- Whether a fragment does not fail and has these notes, in this order. -/
structure Notes (fragment : Fragment) (notes : List Mark) : Prop where
  whole : fragment.failure = none
  notes : fragment.marks.filter Mark.isNote = notes

namespace Notes

variable {fragment first second : Fragment} {own notes notes' : List Mark}

theorem nil : Notes .nil [] := ⟨rfl, rfl⟩

theorem text (words : String) : Notes (.text words) [] := ⟨rfl, rfl⟩

theorem congr (noted : Notes fragment own) (same : own = notes) : Notes fragment notes :=
  same ▸ noted

theorem append (head : Notes first notes) (rest : Notes second notes') :
    Notes (first ++ second) (notes ++ notes') where
  whole := failure_append_eq_none.mpr ⟨head.whole, rest.whole⟩
  notes := by simp [marks_append, head.whole, head.notes, rest.notes]

theorem after (words : String) (noted : Notes fragment notes) : Notes (.text words ++ fragment) notes :=
  (text words).append noted

theorem before (noted : Notes fragment notes) (words : String) : Notes (fragment ++ .text words) notes :=
  (noted.append (text words)).congr (List.append_nil _)

theorem parens (noted : Notes fragment notes) : Notes (.parens fragment) notes :=
  (noted.after "(").before ")"

theorem inClause (noted : Notes fragment notes) (clause : Clause) : Notes (.inClause clause fragment) notes where
  whole := noted.whole
  notes := (Mark.filter_within (fun _ _ _ => rfl) clause fragment.marks).trans noted.notes

theorem onlyIf (condition : Bool) (noted : condition = true → Notes fragment notes)
    (otherwise : condition = false → notes = []) : Notes (.onlyIf condition fragment) notes := by
  cases condition with
  | true => exact noted rfl
  | false => exact nil.congr (otherwise rfl).symm

theorem silentIf (condition : Bool) (noted : Notes fragment []) : Notes (.onlyIf condition fragment) [] :=
  onlyIf condition (fun _ => noted) fun _ => rfl

theorem standard (construct : Construct) (noted : Notes fragment notes) :
    Notes (.offer construct none fragment) notes :=
  append ⟨rfl, rfl⟩ noted

/-- Something that is written around a fragment, if the fragment is there. -/
theorem perhaps {α : Type} {value : Option α} {render : α → Fragment} {of : α → List Mark}
    {around : Fragment → Fragment} (noted : ∀ a ∈ value, Notes (render a) (of a))
    (kept : ∀ fragment notes, Notes fragment notes → Notes (around fragment) notes) :
    Notes (.ifSome (value.map render) around) (value.toList.flatMap of) := by
  cases value with
  | none => exact nil
  | some a => exact (kept _ _ (noted a rfl)).congr (by simp)

/-- The notes of the elements of a list, in their order. -/
theorem separated {α : Type} {elements : List α} {render : α → Fragment} {of : α → List Mark}
    (separator : String) (noted : ∀ a ∈ elements, Notes (render a) (of a)) :
    Notes (.separated separator (elements.map render)) (elements.flatMap of) := by
  induction elements with
  | nil => exact nil
  | cons a rest ih =>
    obtain ⟨own, others⟩ := List.forall_mem_cons.mp noted
    cases rest with
    | nil => exact own.congr (by simp)
    | cons b rest => exact (own.before separator).append (ih others)

/-- A list that is only written if it has elements. -/
theorem listed {α : Type} {elements : List α} {render : α → Fragment} {of : α → List Mark}
    (clause : Clause) (keyword separator : String) (noted : ∀ a ∈ elements, Notes (render a) (of a)) :
    Notes (.onlyIf (!(elements.map render).isEmpty)
      (.inClause clause (.text keyword ++ .separated separator (elements.map render)))) (elements.flatMap of) := by
  refine onlyIf _ (fun _ => ((separated separator noted).after keyword).inClause clause) fun empty => ?_
  cases elements with
  | nil => rfl
  | cons => contradiction

end Notes

end Fragment

/-- Whether the standard fragment of a node has the notes of the node. -/
def Node.Noted (config : Config) (node : Node) : Prop :=
  (node.fragment ⟨.generic, config⟩ {}).Notes (node.notes config)

namespace Render

open Fragment

variable {config : Config}

theorem exprs_noted {items : List Expr} (noted : ∀ node ∈ items.map Node.expr, node.Noted config)
    (separator : String) :
    Notes (.separated separator (exprs ⟨.generic, config⟩ items))
      ((items.map Node.expr).flatMap (Node.notes config)) := by
  rw [exprs_eq_map, List.flatMap_map]
  exact .separated separator (List.forall_mem_map.mp noted)

theorem function_noted {call : FunctionCall} (noted : ∀ node ∈ call.nodes, node.Noted config) :
    Notes (function ⟨.generic, config⟩ call) (call.nodes.flatMap (Node.notes config)) := by
  obtain ⟨name, args, returnType⟩ := call
  exact ((exprs_noted noted ",").parens).after name

theorem literal_noted (value : Value) : Notes (value.fragment config) [] := by
  cases value <;> exact ⟨rfl, rfl⟩

theorem column_noted (column : ColumnRef) : Notes column.fragment [] := by
  obtain ⟨qualifier, name, sqlType⟩ := column
  cases qualifier <;> exact ⟨rfl, rfl⟩

theorem sortItem_noted {rendered : Fragment} {notes : List Mark} (noted : Notes rendered notes) (descending : Bool)
    (nulls : Option NullPrecedence) : Notes (sortItem rendered descending nulls) notes := by
  have order : Notes (.onlyIf descending (.text " desc")) [] := .silentIf descending (.text " desc")
  have precedence : Notes (.ifSome nulls fun nulls => .text nulls.text) [] := by
    cases nulls <;> exact ⟨rfl, rfl⟩
  exact ((noted.append order).append precedence).congr (by simp)

theorem partitionItems_noted {items : List Expr} (noted : ∀ node ∈ items.map Node.item, node.Noted config) :
    ∀ item ∈ items, Notes (partitionItem ⟨.generic, config⟩ item (expr ⟨.generic, config⟩ item))
      ((Node.item item).notes config) :=
  List.forall_mem_map.mp noted

theorem sortItems_noted {items : List SortItem} (noted : ∀ node ∈ items.map (Node.expr ·.expr), node.Noted config) :
    ∀ item ∈ items, Notes (sortItem (expr ⟨.generic, config⟩ item.expr) item.descending item.nulls)
      ((Node.expr item.expr).notes config) :=
  fun item mem => sortItem_noted (List.forall_mem_map.mp noted item mem) item.descending item.nulls

theorem expr_noted {e : Expr} (noted : ∀ node ∈ e.nodes, node.Noted config) : (Node.expr e).Noted config := by
  have below : Notes (expr ⟨.generic, config⟩ e) ((Node.expr e).leading ++ e.nodes.flatMap (Node.notes config)) := by
    cases e with
    | star => exact .text "*"
    | literal value => exact literal_noted value
    | column column => exact column_noted column
    | parameter parameter => exact ⟨rfl, rfl⟩
    | arithmetic left op right =>
      have l : Notes (expr ⟨.generic, config⟩ left) _ := noted (.expr left) (.head _)
      have r : Notes (expr ⟨.generic, config⟩ right) _ := noted (.expr right) (.tail _ (.head _))
      have operands : Notes (standardArithmetic (expr ⟨.generic, config⟩ left) op (expr ⟨.generic, config⟩ right))
          (Node.notes config (.expr left) ++ Node.notes config (.expr right)) := by
        rw [standardArithmetic]
        split
        · exact (((l.before ",").append r).parens).after "mod"
        · exact ((l.before op.text).append r).parens
      exact (operands.standard .arithmetic).congr (by simp [Node.leading, Expr.nodes])
    | function call => exact function_noted noted
    | window call partitionBy orderBy =>
      simp only [Expr.nodes, List.forall_mem_append] at noted
      obtain ⟨⟨args, partitions⟩, sorts⟩ := noted
      have partitions := Notes.listed .partition "partition by " "," (partitionItems_noted partitions)
      have sorts := Notes.listed .orderBy "order by " "," (sortItems_noted sorts)
      have gap (condition : Bool) : Notes (.onlyIf condition (.text " ")) [] := .silentIf condition (.text " ")
      simp only [expr, operand, Operand.fragment, window, partitionItems_eq_map, sortItems_eq_map]
      refine Notes.congr ((((((function_noted args).before " over (").append partitions).append (gap _)).append
        sorts).before ")") ?_
      simp [Node.leading, Expr.nodes, List.flatMap_map]
    | tuple items => exact (exprs_noted noted ",").parens
    | subquery quantifier nested =>
      have rows : Notes ((query ⟨.generic, config⟩ nested).subquery) _ := (noted (.query nested) (.head _)).parens
      have rows := rows.congr (List.append_nil _).symm
      cases quantifier with
      | one => exact rows
      | any => exact rows.after "any"
      | every => exact rows.after "all"
    | summarization kind groupings => exact ((exprs_noted noted ",").parens).after kind.text
  exact below.congr (by simp [Node.notes_eq config (.expr e), Node.visits, Node.trailing])

theorem item_noted {e : Expr} (noted : (Node.expr e).Noted config) : (Node.item e).Noted config := by
  have below : Notes (partitionItem ⟨.generic, config⟩ e (expr ⟨.generic, config⟩ e))
      (Node.notes config (.expr e)) := by
    refine .standard .partitionItem ?_
    cases e with
    | literal value =>
      have silent : Node.notes config (.expr (.literal value)) = [] := by
        rw [Node.notes_eq]
        rfl
      exact (Notes.text "()").congr silent.symm
    | star | column | parameter | arithmetic | function | window | tuple | subquery | summarization => exact noted
  exact below.congr (by simp [Node.notes_eq config (.item e), Node.visits, Node.leading, Node.trailing])

section

variable {around : Fragment → Fragment}
  (kept : ∀ fragment notes, Notes fragment notes → Notes (around fragment) notes)

include kept

theorem condition_noted {restriction : Option Predicate}
    (noted : ∀ node ∈ Predicate.visited restriction, node.Noted config) :
    Notes (.ifSome (condition ⟨.generic, config⟩ restriction) around)
      ((Predicate.visited restriction).flatMap (Node.notes config)) := by
  have own : ∀ p ∈ Predicate.effective? restriction,
      Notes (predicate ⟨.generic, config⟩ p) (Node.notes config (.predicate p)) := fun p mem =>
    noted (.predicate p) (List.mem_map_of_mem (Option.mem_toList.mpr mem))
  rw [condition_eq_map, Predicate.visited, List.flatMap_map]
  exact .perhaps own kept

theorem optional_noted {value : Option Expr} (noted : ∀ node ∈ value.toList.map Node.expr, node.Noted config) :
    Notes (.ifSome (optional ⟨.generic, config⟩ value) around)
      ((value.toList.map Node.expr).flatMap (Node.notes config)) := by
  have own : ∀ e ∈ value, Notes (expr ⟨.generic, config⟩ e) (Node.notes config (.expr e)) := fun e mem =>
    noted (.expr e) (List.mem_map_of_mem (Option.mem_toList.mpr mem))
  rw [optional_eq_map, List.flatMap_map]
  exact .perhaps own kept

end

theorem restriction_noted {restriction : Option Predicate}
    (noted : ∀ node ∈ Predicate.visited restriction, node.Noted config) (clause : Clause) (keyword : String) :
    Notes (RowValue.restriction clause keyword (condition ⟨.generic, config⟩ restriction))
      ((Predicate.visited restriction).flatMap (Node.notes config)) :=
  condition_noted (fun _ _ own => (own.after keyword).inClause clause) noted

theorem paging_noted {value : Option Expr} (noted : ∀ node ∈ value.toList.map Node.expr, node.Noted config)
    (clause : Clause) (start stop : String) :
    Notes (.ifSome (optional ⟨.generic, config⟩ value) fun fragment =>
      .inClause clause (.text start ++ fragment ++ .text stop))
      ((value.toList.map Node.expr).flatMap (Node.notes config)) :=
  optional_noted (fun _ _ own => ((own.after start).before stop).inClause clause) noted

theorem selections_noted {list : List Selection} (noted : ∀ node ∈ list.map (Node.expr ·.expr), node.Noted config) :
    Notes (selections {} (selectionList ⟨.generic, config⟩ list))
      ((list.map (Node.expr ·.expr)).flatMap (Node.notes config)) := by
  have selected (selection : Selection) (mem : selection ∈ list) :
      Notes (expr ⟨.generic, config⟩ selection.expr ++ .ifSome selection.aliasName .aliasText)
        ((Node.expr selection.expr).notes config) := by
    have own : Notes (expr ⟨.generic, config⟩ selection.expr) _ := noted _ (List.mem_map_of_mem mem)
    have name : Notes (.ifSome selection.aliasName .aliasText) [] := by
      cases selection.aliasName <;> exact ⟨rfl, rfl⟩
    exact (own.append name).congr (List.append_nil _)
  cases list with
  | nil => exact .text "*"
  | cons first rest =>
    simp only [selections, aliased_nil, selectionList_eq_map, List.map_map, List.flatMap_map]
    exact .separated "," selected

theorem locking_noted (lock : LockOptions) :
    Notes (locking ⟨.generic, config⟩ lock) [.lock none (standardLockStrategy config lock)] := by
  have written : Notes (.onlyIf (standardLockStrategy config lock == .clause)
      (.inClause .forUpdate (.text lock.mode.text ++ .text lock.wait.text))) [] :=
    .silentIf _ (((Notes.text _).append (.text _)).inClause .forUpdate)
  exact Notes.append ⟨rfl, rfl⟩ written

theorem query_noted {nested : Query} (noted : ∀ node ∈ nested.visits, node.Noted config) :
    (Node.query nested).Noted config := by
  simp only [Query.visits, Query.core, List.forall_mem_append] at noted
  obtain ⟨⟨⟨⟨selected, ⟨⟨sources, restricted⟩, grouped⟩, having⟩, sorts⟩, offset⟩, fetch⟩ := noted
  have sources : ∀ g ∈ nested.sources, Notes (group ⟨.generic, config⟩ g) (Node.notes config (.group g)) :=
    List.forall_mem_map.mp sources
  have lock : Notes (.ifSome nested.lock (locking ⟨.generic, config⟩)) ((Node.query nested).trailing config) := by
    cases lock : nested.lock with
    | none => exact Notes.nil.congr (by simp [Node.trailing, lock])
    | some options => exact (locking_noted options).congr (by simp [Node.trailing, lock])
  simp only [Node.Noted, Node.fragment, query_inScope, query_parts, queryInScope, groups_eq_map,
    partitionItems_eq_map, sortItems_eq_map, RowValue.grouping]
  have clause : Notes (selectClause ⟨.generic, config⟩ nested.distinct {} _) _ :=
    (((Notes.text "select ").append (.silentIf nested.distinct (.text "distinct "))).append
      (selections_noted selected)).standard .selectClause
  have paging : Notes (offsetFetch ⟨.generic, config⟩ _ _) _ :=
    ((paging_noted offset .offset " offset " " rows").append
      (paging_noted fetch .fetch " fetch first " " rows only")).standard .offsetFetch
  refine Notes.congr ((((((((clause.inClause .select).append (.listed .sources " from " "," sources)).append
    (restriction_noted restricted .restriction " where ")).append
    (.listed .groupBy " group by " "," (partitionItems_noted grouped))).append
    (restriction_noted having .having " having ")).append
    (.listed .orderBy " order by " "," (sortItems_noted sorts))).append paging).append lock) ?_
  simp [Node.notes_eq config (.query nested), Node.leading, Node.visits, Query.visits, Query.core, List.flatMap_map]

theorem joins_noted {joined : List Join} (noted : ∀ node ∈ joined.flatMap Join.visits, node.Noted config) :
    Notes (joins ⟨.generic, config⟩ joined) ((joined.flatMap Join.visits).flatMap (Node.notes config)) := by
  induction joined with
  | nil => exact .nil
  | cons j rest ih =>
    obtain ⟨own, others⟩ := List.forall_mem_append.mp noted
    obtain ⟨first, on⟩ := List.forall_mem_cons.mp own
    have table : Notes (table ⟨.generic, config⟩ j.table) _ := first
    have on := condition_noted (fun _ _ condition => condition.after " on ") on
    rw [joins_cons]
    refine Notes.congr (((table.after j.kind.text).append on).append (ih others)) ?_
    simp [Join.visits]

theorem group_noted {from_ : TableGroup} (noted : ∀ node ∈ from_.visits, node.Noted config) :
    (Node.group from_).Noted config := by
  obtain ⟨first, joined⟩ := List.forall_mem_cons.mp noted
  have primary : Notes (table ⟨.generic, config⟩ from_.primary) _ := first
  refine Notes.congr (primary.append (joins_noted joined)) ?_
  simp [Node.notes_eq config (.group from_), Node.leading, Node.visits, TableGroup.visits, Node.trailing]

theorem table_noted {from_ : TableRef} (noted : ∀ node ∈ from_.nodes, node.Noted config) :
    (Node.table from_).Noted config := by
  have below : Notes (table ⟨.generic, config⟩ from_)
      ((Node.table from_).leading ++ from_.nodes.flatMap (Node.notes config)) := by
    have names (source : DerivedSource) (aliasName : String) (columns : List String) (lateral : Bool) :
        Notes (derivedAlias ⟨.generic, config⟩ ⟨source, aliasName, columns, lateral⟩) [] := by
      have list : Notes (.onlyIf (!columns.isEmpty) (.parens (.names columns))) [] :=
        .silentIf _ (Notes.parens (.text _))
      exact ((Notes.append ⟨rfl, rfl⟩ list).standard .derivedAlias)
    have word (lateral : Bool) : Notes (.onlyIf lateral (.text "lateral ")) [] := .silentIf lateral (.text _)
    match from_ with
    | .named ⟨table, aliasName⟩ => cases aliasName <;> exact ⟨rfl, rfl⟩
    | .derived ⟨.query nested, aliasName, columns, lateral⟩ =>
      have rows : Notes (query ⟨.generic, config⟩ nested).subquery _ := (noted (.query nested) (.head _)).parens
      refine Notes.congr (((word lateral).append (rows.standard .queryPart)).append
        (names (.query nested) aliasName columns lateral) |>.standard .derivedTable) ?_
      simp [Node.leading, TableRef.nodes]
    | .derived ⟨.function call, aliasName, columns, lateral⟩ =>
      refine Notes.congr (((word lateral).append (function_noted noted)).append
        (names (.function call) aliasName columns lateral) |>.standard .derivedTable) ?_
      simp [Node.leading, TableRef.nodes]
  exact below.congr (by simp [Node.notes_eq config (.table from_), Node.visits, Node.trailing])

/-- The parts of a junction that are written, each with the notes of its own. -/
theorem junctionParts_noted {parts : List Predicate} (separator : String)
    (noted : ∀ node ∈ (parts.filter (!·.isEmpty)).map Node.predicate, node.Noted config) :
    Notes (.separated separator (junctionParts ⟨.generic, config⟩ parts))
      (((parts.filter (!·.isEmpty)).map Node.predicate).flatMap (Node.notes config)) := by
  rw [junctionParts_eq_map, List.flatMap_map]
  refine .separated separator fun p mem => ?_
  have own : Notes (predicate ⟨.generic, config⟩ p) _ := noted (.predicate p) (List.mem_map_of_mem mem)
  split
  · exact own.parens
  · exact own

theorem predicate_noted {p : Predicate} (noted : ∀ node ∈ p.visits .generic, node.Noted config) :
    (Node.predicate p).Noted config := by
  have below : Notes (predicate ⟨.generic, config⟩ p) ((p.visits .generic).flatMap (Node.notes config)) := by
    have tested (e : Expr) (mem : .expr e ∈ p.visits .generic) :
        Notes (operand ⟨.generic, config⟩ e).fragment (Node.notes config (.expr e)) := noted (.expr e) mem
    have rows (nested : Query) (mem : .query nested ∈ p.visits .generic) :
        Notes (query ⟨.generic, config⟩ nested).subquery (Node.notes config (.query nested)) :=
      (noted (.query nested) mem).parens
    cases p with
    | comparison left op right =>
      refine Notes.congr ((((tested left (.head _)).before op.spacedText).append
        (tested right (.tail _ (.head _)))).standard .comparison) ?_
      simp [Predicate.visits]
    | inList test values negated =>
      cases values with
      | nil => exact .text _
      | cons value values =>
        have list := exprs_noted (List.forall_mem_cons.mp noted).2 ","
        refine Notes.congr (((tested test (.head _)).before _).append list.parens) ?_
        simp [Predicate.visits, Predicate.nodes]
    | inSubquery test nested negated =>
      refine Notes.congr (((tested test (.head _)).before _).append (rows nested (.tail _ (.head _)))) ?_
      simp [Predicate.visits, Predicate.nodes]
    | inArray test array =>
      refine Notes.congr ((((tested test (.head _)).before _).append
        (tested array (.tail _ (.head _))).parens).standard .inArray) ?_
      simp [Predicate.visits, Predicate.nodes]
    | like node =>
      obtain ⟨matched, pattern, escape, caseSensitive, negated⟩ := node
      have word : Notes (.onlyIf negated (.text " not")) [] := .silentIf negated (.text _)
      have clause := optional_noted (fun _ _ own => own.after " escape ")
        (List.forall_mem_cons.mp (List.forall_mem_cons.mp noted).2).2
      refine Notes.congr ((((((tested matched (.head _)).append word).before _).append
        (tested pattern (.tail _ (.head _)))).append clause).standard .like) ?_
      simp [Predicate.visits, Like.nodes]
    | nullness test negated =>
      refine Notes.congr ((tested test (.head _)).before _) ?_
      simp [Predicate.visits, Predicate.nodes]
    | between test low high negated =>
      refine Notes.congr (((((tested test (.head _)).before _).append (tested low (.tail _ (.head _)))).before
        " and ").append (tested high (.tail _ (.tail _ (.head _))))) ?_
      simp [Predicate.visits, Predicate.nodes]
    | existence nested negated =>
      have word : Notes (.onlyIf negated (.text "not ")) [] := .silentIf negated (.text _)
      refine Notes.congr ((word.before "exists ").append (rows nested (.head _))) ?_
      simp [Predicate.visits, Predicate.nodes]
    | junction kind parts => exact junctionParts_noted kind.separator noted
    | negation inner =>
      have own : Notes (predicate ⟨.generic, config⟩ inner) _ := noted (.predicate inner) (.head _)
      refine Notes.congr (own.parens.after "not ") ?_
      simp [Predicate.visits, Predicate.nodes]
  exact below.congr (by simp [Node.notes_eq config (.predicate p), Node.leading, Node.visits, Node.trailing])

theorem dmlTarget_noted (config : Config) (clause : Option Clause) (table : NamedTable) :
    Notes (dmlTarget ⟨.generic, config⟩ clause table) [.table table.table] := ⟨rfl, rfl⟩

theorem returning_noted (columns : List ColumnRef) : Notes (returning columns) [] := by
  refine .silentIf _ (((Notes.separated "," fun column _ => column_noted column).after
    " returning ").inClause .returning |>.congr ?_)
  simp

theorem assignments_noted {items : List Assignment}
    (noted : ∀ node ∈ items.map (Node.expr ·.value), node.Noted config) :
    Notes (assignments ⟨.generic, config⟩ items) ((items.map (Node.expr ·.value)).flatMap (Node.notes config)) := by
  have own (item : Assignment) (mem : item ∈ items) :
      Notes (.text item.column.name ++ .text "=" ++ expr ⟨.generic, config⟩ item.value)
        ((Node.expr item.value).notes config) :=
    ((Notes.text _).append (.text "=")).append (noted _ (List.mem_map_of_mem mem))
  rw [List.flatMap_map]
  exact .separated "," own

theorem insertSource_noted {source : InsertSource} (noted : ∀ node ∈ source.nodes, node.Noted config) :
    Notes (insertSource ⟨.generic, config⟩ source) (source.nodes.flatMap (Node.notes config)) := by
  cases source with
  | values rows =>
    have row : ∀ row ∈ rows, Notes (.parens (.separated "," (exprs ⟨.generic, config⟩ row)))
        ((row.map Node.expr).flatMap (Node.notes config)) := fun row mem =>
      (exprs_noted (fun node below => noted node (List.mem_flatMap.mpr ⟨row, mem, below⟩)) ",").parens
    rw [insertSource, InsertSource.nodes, List.flatMap_assoc]
    cases rows with
    | nil => exact .text _
    | cons => exact ((Notes.separated "," row).after "values ").inClause .values
  | query nested =>
    have rows : Notes ((query ⟨.generic, config⟩ nested).inScope {}) _ := noted (.query nested) (.head _)
    exact rows.congr (List.append_nil _).symm

theorem conflictClause_noted {conflict : Conflict} (noted : ∀ node ∈ conflict.visits, node.Noted config) :
    Notes (conflictClause ⟨.generic, config⟩ conflict) (conflict.visits.flatMap (Node.notes config)) := by
  obtain ⟨action, name, columns, guard⟩ := conflict
  have names : Notes (constraint name columns) [] := by
    cases name with
    | none => exact .silentIf _ ((Notes.text " ").append (Notes.text _).parens)
    | some => exact ⟨rfl, rfl⟩
  have head : Notes (.text " on conflict" ++ constraint name columns) [] := (Notes.text _).append names
  cases action with
  | doNothing => exact (head.append (.text " do nothing")).inClause .conflict
  | doUpdate items =>
    obtain ⟨values, guarded⟩ := List.forall_mem_append.mp noted
    refine ((head.append (((assignments_noted values).after _).append
      (restriction_noted guarded .restriction " where "))).inClause .conflict).congr ?_
    simp [Conflict.visits]

theorem insert_noted {change : Insert} (noted : ∀ node ∈ (Statement.insert change).visits .generic, node.Noted config) :
    Notes (insert ⟨.generic, config⟩ change)
      (.table change.target.table :: ((Statement.insert change).visits .generic).flatMap (Node.notes config)) := by
  obtain ⟨table, columns, source, conflict, returned⟩ := change
  obtain ⟨rows, clause⟩ := List.forall_mem_append.mp noted
  have names : Notes (.onlyIf (!columns.isEmpty) (.text " " ++ .parens (.names columns))) [] :=
    .silentIf _ ((Notes.text " ").append (Notes.text _).parens)
  have head := ((((dmlTarget_noted config (some .insert) table).after "insert into ").append names).inClause
    .insert).before " "
  have standard (clause : Fragment) (own : List Mark) (noted : Notes clause own) :=
    ((head.append (insertSource_noted rows)).append noted).append (returning_noted returned)
  cases conflict with
  | none =>
    refine (standard .nil [] .nil).congr ?_
    simp [Statement.visits]
  | some conflict =>
    have visited (node : Node) (mem : node ∈ conflict.visits) : node.Noted config :=
      clause node (List.mem_flatMap.mpr ⟨conflict, .head _, mem⟩)
    have clause := conflictClause_noted visited
    refine ((standard _ _ clause).standard .insertWithConflict).congr ?_
    simp [Statement.visits]

theorem statement_noted {change : Statement} (noted : ∀ node ∈ change.visits .generic, node.Noted config) :
    (Node.statement change).Noted config := by
  have below : Notes (statement ⟨.generic, config⟩ change)
      ((Node.statement change).leading ++ (change.visits .generic).flatMap (Node.notes config)) := by
    cases change with
    | select nested =>
      have rows : Notes ((query ⟨.generic, config⟩ nested).inScope {}) _ := noted (.query nested) (.head _)
      exact rows.congr (List.append_nil _).symm
    | insert nested => exact insert_noted noted
    | update nested =>
      obtain ⟨values, guarded⟩ := List.forall_mem_append.mp noted
      have head := ((dmlTarget_noted config (some .update) nested.target).after "update ").inClause .update
      have items := ((assignments_noted values).after " set ").inClause .assignments
      refine ((((head.append items).append (restriction_noted guarded .restriction " where ")).append
        (returning_noted nested.returning)).standard .update).congr ?_
      simp [Node.leading, Statement.visits]
    | delete nested =>
      have head := ((dmlTarget_noted config (some .delete) nested.target).after "delete from ").inClause
        .delete
      refine (((head.append (restriction_noted noted .restriction " where ")).append
        (returning_noted nested.returning)).standard .delete).congr ?_
      simp [Node.leading, Statement.visits]
  exact below.congr (by simp [Node.notes_eq config (.statement change), Node.visits, Node.trailing])

/-- The generic dialect renders every node, and notes what the node has to be noted. -/
theorem node_noted (config : Config) (node : Node) : node.Noted config := by
  induction node using Node.induction with
  | step node ih =>
    have noted (inner : Node) (mem : inner ∈ node.visits .generic) : inner.Noted config :=
      ih inner (Node.below_of_mem_visits mem)
    cases node with
    | statement change => exact statement_noted noted
    | query nested => exact query_noted noted
    | group from_ => exact group_noted noted
    | table from_ => exact table_noted noted
    | predicate p => exact predicate_noted noted
    | expr e => exact expr_noted noted
    | item e => exact item_noted (noted _ (.head _))

end Render

end PortableSql
