import PortableSql.Proofs.CalendarText
import PortableSql.Proofs.Loosening

/-! The forms of statements and of their parts read back, also if they are loosened.

Each kind of record has one lemma, which takes its fields one after the other; the mutual induction
over expressions, predicates and queries puts them together.
-/

set_option autoImplicit false

namespace PortableSql.Form

open Json

theorem read_next {α β : Type} {first : Option α} {next : α → Option β} {a : α} {b : β}
    (found : first = some a) (rest : next a = some b) : first >>= next = some b := by
  rw [found]
  exact rest

/-! ### Leaves -/

theorem reads_text (text : String) : Reads .leaf (fun _ => text?) (.string text) text :=
  .leaf fun _ _ => rfl

theorem reads_bool (value : Bool) : Reads .leaf (fun _ => bool?) (.bool value) value :=
  .leaf fun _ _ => rfl

theorem Holds.flag {record : Record} {depth : Nat} {name : String} {default value : Bool}
    (held : Holds record depth name .leaf (some (.bool default)) (.bool value)) :
    record.withDefault name default bool? = some value :=
  held.withDefault (reads_bool value) (reads_bool default)

theorem reads_optionalText (text : Option String) :
    Reads (.optional .leaf) (fun _ => orNull? text?) (optionalText text) text :=
  .ofOption (fun _ => Json.noConfusion) reads_text text

theorem reads_list {α : Type} {place : Place} {read : Nat → Json → Option α} {encode : α → Json}
    (each : ∀ value, Reads place read (encode value) value) (values : List α) :
    Reads (.list place) (listWithin read) (.ofList encode values) values :=
  .ofList (fun _ _ => rfl) each values

theorem reads_texts (all : List String) : Reads (.list .leaf) textsWithin (texts all) all :=
  reads_list reads_text all

theorem reads_member {α : Type} {all : List α} {nameOf : α → String} (member : α)
    (found : all.find? (fun other => nameOf other == nameOf member) = some member) :
    Reads .leaf (memberWithin? all nameOf) (.string (nameOf member)) member :=
  .leaf fun depth _ => by cases depth <;> exact found

theorem reads_comparisonOp (op : ComparisonOp) :
    Reads .leaf ComparisonOp.ofForm? (.string (comparisonOp op)) op :=
  reads_member op (by cases op <;> rfl)

theorem reads_arithmeticOp (op : ArithmeticOp) :
    Reads .leaf ArithmeticOp.ofForm? (.string (arithmeticOp op)) op :=
  reads_member op (by cases op <;> rfl)

theorem reads_summarizationKind (kind : SummarizationKind) :
    Reads .leaf SummarizationKind.ofForm? (.string (summarizationKind kind)) kind :=
  reads_member kind (by cases kind <;> rfl)

theorem reads_junctionKind (kind : JunctionKind) :
    Reads .leaf JunctionKind.ofForm? (.string (junctionKind kind)) kind :=
  reads_member kind (by cases kind <;> rfl)

theorem reads_joinKind (kind : JoinKind) :
    Reads .leaf JoinKind.ofForm? (.string (joinKind kind)) kind :=
  reads_member kind (by cases kind <;> rfl)

theorem reads_nullPrecedence (nulls : NullPrecedence) :
    Reads .leaf NullPrecedence.ofForm? (.string (nullPrecedence nulls)) nulls :=
  reads_member nulls (by cases nulls <;> rfl)

theorem reads_lockMode (mode : LockMode) :
    Reads .leaf LockMode.ofForm? (.string (lockMode mode)) mode :=
  reads_member mode (by cases mode <;> rfl)

theorem reads_lockWait (member : LockWait) :
    Reads .leaf LockWait.ofForm? (.string (lockWait member)) member :=
  reads_member member (by cases member <;> rfl)

theorem reads_followOn (followOn : FollowOn) :
    Reads .leaf FollowOn.ofForm? (.string (Form.followOn followOn)) followOn :=
  reads_member followOn (by cases followOn <;> rfl)

theorem reads_sqlType (type : SqlType) : Reads .leaf SqlType.ofForm? type.toJson type :=
  reads_member type (by cases type <;> rfl)

theorem int64?_toInt (n : Int64) : int64? (.int n.toInt) = some n := by
  rw [int64?, intWithin?, if_pos ⟨n.minValue_le_toInt, n.toInt_le⟩, Option.map_some,
    Int64.ofInt_toInt]

theorem reads_value (value : Value) : Reads .leaf Value.read value.toJson value := by
  refine .leaf fun depth fits => ?_
  cases depth with
  | zero => cases value with
    | null => rfl
    | _ => exact absurd fits (Nat.not_succ_le_zero _)
  | succ depth => cases value with
    | null => rfl
    | bool | float | string => rfl
    | int n => exact congrArg (Option.map Value.int) (int64?_toInt n)
    | date d =>
      rw [Value.toJson]
      simp [Value.read, tagged, alternative?, text?, d.ofText?_text]
    | timestamp t =>
      rw [Value.toJson]
      simp [Value.read, tagged, alternative?, text?, t.ofText?_text]

theorem reads_optionalNulls (nulls : Option NullPrecedence) :
    Reads (.optional .leaf) (fun depth => orNull? (NullPrecedence.ofForm? depth))
      (.ofOption (fun nulls => .string (nullPrecedence nulls)) nulls) nulls :=
  .ofOption (fun _ => Json.noConfusion) reads_nullPrecedence nulls

/-! ### Records without expressions -/

theorem reads_column (column : ColumnRef) :
    Reads (.node .column) ColumnRef.read column.toJson column := by
  refine .record rfl fun depth value record opened held => ?_
  obtain ⟨qualifier, name, type, -⟩ := held
  exact read_next opened <| read_next (qualifier.optional (reads_optionalText _)) <|
    read_next (name.required (reads_text _)) <|
    read_next (type.withDefault (reads_sqlType _) (reads_sqlType .other)) rfl

theorem reads_parameter (parameter : Parameter) :
    Reads (.node .parameter) Parameter.read parameter.toJson parameter := by
  refine .record rfl fun depth value record opened held => ?_
  obtain ⟨name, type, -⟩ := held
  exact read_next opened <| read_next (name.optional (reads_optionalText _)) <|
    read_next (type.withDefault (reads_sqlType _) (reads_sqlType .other)) rfl

theorem reads_namedTable (table : NamedTable) :
    Reads (.node .namedTable) NamedTable.read table.toJson table := by
  refine .record rfl fun depth value record opened held => ?_
  obtain ⟨name, aliasName, -⟩ := held
  exact read_next opened <| read_next (name.required (reads_text _)) <|
    read_next (aliasName.optional (reads_optionalText _)) rfl

theorem reads_lock (lock : LockOptions) :
    Reads (.node .lock) LockOptions.read lock.toJson lock := by
  refine .record rfl fun depth value record opened held => ?_
  obtain ⟨mode, wait, followOn, -⟩ := held
  exact read_next opened <| read_next (mode.required (reads_lockMode _)) <|
    read_next (wait.withDefault (reads_lockWait _) (reads_lockWait .wait)) <|
    read_next (followOn.withDefault (reads_followOn _) (reads_followOn .allow)) rfl

/-! ### Records of expressions and queries, given that those read back -/

section

variable {test left right low high : Expr} {items : List Expr} {inner : Query} {negated : Bool}

theorem reads_arithmetic (op : ArithmeticOp)
    (reads_left : Reads (.node .expr) expr left.toJson left)
    (reads_right : Reads (.node .expr) expr right.toJson right) :
    Reads (.node .arithmetic) arithmetic
      (.object [("left", left.toJson), ("op", .string (arithmeticOp op)), ("right", right.toJson)])
      (.arithmetic left op right) := by
  refine .record rfl fun depth value record opened held => ?_
  obtain ⟨heldLeft, heldOp, heldRight, -⟩ := held
  exact read_next opened <| read_next (heldLeft.required reads_left) <|
    read_next (heldOp.required (reads_arithmeticOp op)) <|
    read_next (heldRight.required reads_right) rfl

theorem reads_window {function : FunctionCall} {order : List SortItem}
    (reads_function : Reads (.node .call) call function.toJson function)
    (reads_items : Reads (.list (.node .expr)) exprs (.array (Expr.listToJson items)) items)
    (reads_order : Reads (.list (.node .sortItem)) sortItems (.array (SortItem.listToJson order))
      order) :
    Reads (.node .window) window
      (.object [("function", function.toJson), ("partition_by", .array (Expr.listToJson items)),
        ("order_by", .array (SortItem.listToJson order))])
      (.window function items order) := by
  refine .record rfl fun depth value record opened held => ?_
  obtain ⟨heldFunction, heldItems, heldOrder, -⟩ := held
  exact read_next opened <| read_next (heldFunction.required reads_function) <|
    read_next (heldItems.listed (fun _ => rfl) reads_items) <|
    read_next (heldOrder.listed (fun _ => rfl) reads_order) rfl

theorem reads_summarization (kind : SummarizationKind)
    (reads_items : Reads (.list (.node .expr)) exprs (.array (Expr.listToJson items)) items) :
    Reads (.node .summarization) summarization
      (.object [("kind", .string (summarizationKind kind)),
        ("groupings", .array (Expr.listToJson items))])
      (.summarization kind items) := by
  refine .record rfl fun depth value record opened held => ?_
  obtain ⟨heldKind, heldItems, -⟩ := held
  exact read_next opened <| read_next (heldKind.required (reads_summarizationKind kind)) <|
    read_next (heldItems.required reads_items) rfl

theorem reads_comparison (op : ComparisonOp)
    (reads_left : Reads (.node .expr) expr left.toJson left)
    (reads_right : Reads (.node .expr) expr right.toJson right) :
    Reads (.node .comparison) comparison
      (.object [("lhs", left.toJson), ("op", .string (comparisonOp op)), ("rhs", right.toJson)])
      (.comparison left op right) := by
  refine .record rfl fun depth value record opened held => ?_
  obtain ⟨heldLeft, heldOp, heldRight, -⟩ := held
  exact read_next opened <| read_next (heldLeft.required reads_left) <|
    read_next (heldOp.required (reads_comparisonOp op)) <|
    read_next (heldRight.required reads_right) rfl

theorem reads_inList (reads_test : Reads (.node .expr) expr test.toJson test)
    (reads_items : Reads (.list (.node .expr)) exprs (.array (Expr.listToJson items)) items) :
    Reads (.node .inList) inList
      (.object [("test", test.toJson), ("values", .array (Expr.listToJson items)),
        ("negated", .bool negated)])
      (.inList test items negated) := by
  refine .record rfl fun depth value record opened held => ?_
  obtain ⟨heldTest, heldItems, heldNegated, -⟩ := held
  exact read_next opened <| read_next (heldTest.required reads_test) <|
    read_next (heldItems.required reads_items) <|
    read_next heldNegated.flag rfl

theorem reads_inSubquery (reads_test : Reads (.node .expr) expr test.toJson test)
    (reads_inner : Reads (.node .query) query inner.toJson inner) :
    Reads (.node .inSubquery) inSubquery
      (.object [("test", test.toJson), ("query", inner.toJson), ("negated", .bool negated)])
      (.inSubquery test inner negated) := by
  refine .record rfl fun depth value record opened held => ?_
  obtain ⟨heldTest, heldInner, heldNegated, -⟩ := held
  exact read_next opened <| read_next (heldTest.required reads_test) <|
    read_next (heldInner.required reads_inner) <|
    read_next heldNegated.flag rfl

theorem reads_inArray (reads_left : Reads (.node .expr) expr left.toJson left)
    (reads_right : Reads (.node .expr) expr right.toJson right) :
    Reads (.node .inArray) inArray (.object [("test", left.toJson), ("array", right.toJson)])
      (.inArray left right) := by
  refine .record rfl fun depth value record opened held => ?_
  obtain ⟨heldTest, heldArray, -⟩ := held
  exact read_next opened <| read_next (heldTest.required reads_left) <|
    read_next (heldArray.required reads_right) rfl

theorem reads_nullness (reads_test : Reads (.node .expr) expr test.toJson test) :
    Reads (.node .nullness) nullness (.object [("expr", test.toJson), ("negated", .bool negated)])
      (.nullness test negated) := by
  refine .record rfl fun depth value record opened held => ?_
  obtain ⟨heldTest, heldNegated, -⟩ := held
  exact read_next opened <| read_next (heldTest.required reads_test) <|
    read_next heldNegated.flag rfl

theorem reads_between (reads_test : Reads (.node .expr) expr test.toJson test)
    (reads_low : Reads (.node .expr) expr low.toJson low)
    (reads_high : Reads (.node .expr) expr high.toJson high) :
    Reads (.node .between) between
      (.object [("expr", test.toJson), ("low", low.toJson), ("high", high.toJson),
        ("negated", .bool negated)])
      (.between test low high negated) := by
  refine .record rfl fun depth value record opened held => ?_
  obtain ⟨heldTest, heldLow, heldHigh, heldNegated, -⟩ := held
  exact read_next opened <| read_next (heldTest.required reads_test) <|
    read_next (heldLow.required reads_low) <| read_next (heldHigh.required reads_high) <|
    read_next heldNegated.flag rfl

theorem reads_existence (reads_inner : Reads (.node .query) query inner.toJson inner) :
    Reads (.node .existence) existence
      (.object [("query", inner.toJson), ("negated", .bool negated)])
      (.existence inner negated) := by
  refine .record rfl fun depth value record opened held => ?_
  obtain ⟨heldInner, heldNegated, -⟩ := held
  exact read_next opened <| read_next (heldInner.required reads_inner) <|
    read_next heldNegated.flag rfl

theorem reads_junction (kind : JunctionKind) {parts : List Predicate}
    (reads_parts : Reads (.list (.node .predicate)) predicates
      (.array (Predicate.listToJson parts)) parts) :
    Reads (.node .junction) junction
      (.object [("kind", .string (junctionKind kind)),
        ("predicates", .array (Predicate.listToJson parts))])
      (.junction kind parts) := by
  refine .record rfl fun depth value record opened held => ?_
  obtain ⟨heldKind, heldParts, -⟩ := held
  exact read_next opened <| read_next (heldKind.required (reads_junctionKind kind)) <|
    read_next (heldParts.required reads_parts) rfl

theorem reads_head (distinct : Bool) {chosen : List Selection}
    (reads_chosen : Reads (.list (.node .selection)) selections
      (.array (Selection.listToJson chosen)) chosen) :
    Reads (.node .head) head
      (.object [("distinct", .bool distinct), ("selections", .array (Selection.listToJson chosen))])
      (distinct, chosen) := by
  refine .record rfl fun depth value record opened held => ?_
  obtain ⟨heldDistinct, heldChosen, -⟩ := held
  exact read_next opened <|
    read_next heldDistinct.flag <|
    read_next (heldChosen.required reads_chosen) rfl

theorem reads_subquery (quantifier : Quantifier)
    (reads_inner : Reads (.node .query) query inner.toJson inner) :
    Reads (.node .expr) expr (Expr.subquery quantifier inner).toJson
      (.subquery quantifier inner) := by
  cases quantifier with
  | one => exact .alternative (by decide) (fun _ _ => rfl) (reads_inner.map (Expr.subquery .one))
  | any => exact .alternative (by decide) (fun _ _ => rfl) (reads_inner.map (Expr.subquery .any))
  | every =>
    exact .alternative (by decide) (fun _ _ => rfl) (reads_inner.map (Expr.subquery .every))

end

/-! ### Expressions, predicates and queries -/

mutual

theorem reads_expr : (e : Expr) → Reads (.node .expr) expr e.toJson e
  | .star => by
    intro loose depth loosens _
    rw [loosens.eq_of_flat rfl]
    cases depth <;> rfl
  | .literal value =>
    .alternative (by decide) (fun _ _ => rfl) ((reads_value value).map Expr.literal)
  | .column column =>
    .alternative (by decide) (fun _ _ => rfl) ((reads_column column).map Expr.column)
  | .parameter parameter =>
    .alternative (by decide) (fun _ _ => rfl) ((reads_parameter parameter).map Expr.parameter)
  | .arithmetic left op right =>
    .alternative (by decide) (fun _ _ => rfl) <|
      reads_arithmetic op (reads_expr left) (reads_expr right)
  | .function call =>
    .alternative (by decide) (fun _ _ => rfl) ((reads_call call).map Expr.function)
  | .window call items order =>
    .alternative (by decide) (fun _ _ => rfl) <|
      reads_window (reads_call call) (reads_exprs items) (reads_sortItems order)
  | .tuple items => .alternative (by decide) (fun _ _ => rfl) ((reads_exprs items).map Expr.tuple)
  | .subquery quantifier query => reads_subquery quantifier (reads_query query)
  | .summarization kind items =>
    .alternative (by decide) (fun _ _ => rfl) (reads_summarization kind (reads_exprs items))

theorem reads_exprs : (es : List Expr) →
    Reads (.list (.node .expr)) exprs (.array (Expr.listToJson es)) es
  | [] => .nil fun _ => rfl
  | e :: es => .cons (fun _ _ => rfl) (reads_expr e) (reads_exprs es)

theorem reads_call : (c : FunctionCall) → Reads (.node .call) call c.toJson c
  | ⟨_, args, _⟩ => by
    refine .record rfl fun depth value record opened held => ?_
    obtain ⟨heldName, heldArgs, heldType, -⟩ := held
    exact read_next opened <| read_next (heldName.required (reads_text _)) <|
      read_next (heldArgs.listed (fun _ => rfl) (reads_exprs args)) <|
      read_next (heldType.withDefault (reads_sqlType _) (reads_sqlType .other)) rfl

theorem reads_sortItem : (item : SortItem) → Reads (.node .sortItem) sortItem item.toJson item
  | ⟨e, _, _⟩ => by
    refine .record rfl fun depth value record opened held => ?_
    obtain ⟨heldExpr, heldDescending, heldNulls, -⟩ := held
    exact read_next opened <| read_next (heldExpr.required (reads_expr e)) <|
      read_next heldDescending.flag <|
      read_next (heldNulls.optional (reads_optionalNulls _)) rfl

theorem reads_sortItems : (items : List SortItem) →
    Reads (.list (.node .sortItem)) sortItems (.array (SortItem.listToJson items)) items
  | [] => .nil fun _ => rfl
  | item :: items => .cons (fun _ _ => rfl) (reads_sortItem item) (reads_sortItems items)

theorem reads_predicate : (p : Predicate) → Reads (.node .predicate) predicate p.toJson p
  | .comparison left op right =>
    .alternative (by decide) (fun _ _ => rfl) <|
      reads_comparison op (reads_expr left) (reads_expr right)
  | .inList test items _ =>
    .alternative (by decide) (fun _ _ => rfl) (reads_inList (reads_expr test) (reads_exprs items))
  | .inSubquery test inner _ =>
    .alternative (by decide) (fun _ _ => rfl) <|
      reads_inSubquery (reads_expr test) (reads_query inner)
  | .inArray left right =>
    .alternative (by decide) (fun _ _ => rfl) (reads_inArray (reads_expr left) (reads_expr right))
  | .like like => .alternative (by decide) (fun _ _ => rfl) ((reads_like like).map Predicate.like)
  | .nullness test _ => .alternative (by decide) (fun _ _ => rfl) (reads_nullness (reads_expr test))
  | .between test low high _ =>
    .alternative (by decide) (fun _ _ => rfl) <|
      reads_between (reads_expr test) (reads_expr low) (reads_expr high)
  | .existence inner _ =>
    .alternative (by decide) (fun _ _ => rfl) (reads_existence (reads_query inner))
  | .junction kind parts =>
    .alternative (by decide) (fun _ _ => rfl) (reads_junction kind (reads_predicates parts))
  | .negation inner =>
    .alternative (by decide) (fun _ _ => rfl) ((reads_predicate inner).map Predicate.negation)

theorem reads_predicates : (parts : List Predicate) →
    Reads (.list (.node .predicate)) predicates (.array (Predicate.listToJson parts)) parts
  | [] => .nil fun _ => rfl
  | part :: parts => .cons (fun _ _ => rfl) (reads_predicate part) (reads_predicates parts)

theorem reads_optionalPredicate : (p : Option Predicate) →
    Reads (.optional (.node .predicate)) (fun depth => orNull? (predicate depth))
      (Predicate.optionToJson p) p
  | none => .null
  | some p => .present (by cases p <;> exact Json.noConfusion) (reads_predicate p)

theorem reads_optionalExpr : (e : Option Expr) →
    Reads (.optional (.node .expr)) (fun depth => orNull? (expr depth)) (Expr.optionToJson e) e
  | none => .null
  | some e => .present (by cases e <;> exact Json.noConfusion) (reads_expr e)

theorem reads_like : (l : Like) → Reads (.node .like) like l.toJson l
  | ⟨e, pattern, escape, _, _⟩ => by
    refine .record rfl fun depth value record opened held => ?_
    obtain ⟨heldExpr, heldPattern, heldEscape, heldCase, heldNegated, -⟩ := held
    exact read_next opened <| read_next (heldExpr.required (reads_expr e)) <|
      read_next (heldPattern.required (reads_expr pattern)) <|
      read_next (heldEscape.optional (reads_optionalExpr escape)) <|
      read_next heldCase.flag <|
      read_next heldNegated.flag rfl

theorem reads_selection : (s : Selection) → Reads (.node .selection) selection s.toJson s
  | ⟨e, _⟩ => by
    refine .record rfl fun depth value record opened held => ?_
    obtain ⟨heldExpr, heldAlias, -⟩ := held
    exact read_next opened <| read_next (heldExpr.required (reads_expr e)) <|
      read_next (heldAlias.optional (reads_optionalText _)) rfl

theorem reads_selections : (all : List Selection) →
    Reads (.list (.node .selection)) selections (.array (Selection.listToJson all)) all
  | [] => .nil fun _ => rfl
  | s :: all => .cons (fun _ _ => rfl) (reads_selection s) (reads_selections all)

theorem reads_query : (q : Query) → Reads (.node .query) query q.toJson q
  | ⟨distinct, chosen, sources, restriction, groupBy, having, orderBy, offset, fetch, lock⟩ => by
    refine .record rfl fun depth value record opened held => ?_
    obtain ⟨heldSelect, heldFrom, heldRestriction, heldGroup, heldHaving, heldOrder, heldOffset,
      heldFetch, heldLock, -⟩ := held
    exact read_next opened <|
      read_next (heldSelect.required
        (reads_head distinct (reads_selections chosen))) <|
      read_next (heldFrom.listed (fun _ => rfl) (reads_groups sources)) <|
      read_next (heldRestriction.optional (reads_optionalPredicate restriction)) <|
      read_next (heldGroup.listed (fun _ => rfl) (reads_exprs groupBy)) <|
      read_next (heldHaving.optional (reads_optionalPredicate having)) <|
      read_next (heldOrder.listed (fun _ => rfl) (reads_sortItems orderBy)) <|
      read_next (heldOffset.optional (reads_optionalExpr offset)) <|
      read_next (heldFetch.optional (reads_optionalExpr fetch)) <|
      read_next (heldLock.optional (.ofOption (fun _ => Json.noConfusion) reads_lock lock)) rfl

theorem reads_derivedSource : (source : DerivedSource) →
    Reads (.node .derivedSource) derivedSource source.toJson source
  | .query inner =>
    .alternative (by decide) (fun _ _ => rfl) ((reads_query inner).map DerivedSource.query)
  | .function call =>
    .alternative (by decide) (fun _ _ => rfl) ((reads_call call).map DerivedSource.function)

theorem reads_derivedTable : (derived : DerivedTable) →
    Reads (.node .derivedTable) derivedTable derived.toJson derived
  | ⟨source, _, names, _⟩ => by
    refine .record rfl fun depth value record opened held => ?_
    obtain ⟨heldSource, heldAlias, heldNames, heldLateral, -⟩ := held
    exact read_next opened <| read_next (heldSource.required (reads_derivedSource source)) <|
      read_next (heldAlias.required (reads_text _)) <|
      read_next (heldNames.listed (fun _ => rfl) (reads_texts names)) <|
      read_next heldLateral.flag rfl

theorem reads_table : (t : TableRef) → Reads (.node .table) table t.toJson t
  | .named named =>
    .alternative (by decide) (fun _ _ => rfl) ((reads_namedTable named).map TableRef.named)
  | .derived derived =>
    .alternative (by decide) (fun _ _ => rfl) ((reads_derivedTable derived).map TableRef.derived)

theorem reads_join : (j : Join) → Reads (.node .join) join j.toJson j
  | ⟨kind, joined, on⟩ => by
    refine .record rfl fun depth value record opened held => ?_
    obtain ⟨heldKind, heldTable, heldOn, -⟩ := held
    exact read_next opened <| read_next (heldKind.required (reads_joinKind kind)) <|
      read_next (heldTable.required (reads_table joined)) <|
      read_next (heldOn.optional (reads_optionalPredicate on)) rfl

theorem reads_joins : (all : List Join) →
    Reads (.list (.node .join)) joins (.array (Join.listToJson all)) all
  | [] => .nil fun _ => rfl
  | j :: all => .cons (fun _ _ => rfl) (reads_join j) (reads_joins all)

theorem reads_group : (group : TableGroup) → Reads (.node .tableGroup) tableGroup group.toJson group
  | ⟨primary, all⟩ => by
    refine .record rfl fun depth value record opened held => ?_
    obtain ⟨heldPrimary, heldJoins, -⟩ := held
    exact read_next opened <| read_next (heldPrimary.required (reads_table primary)) <|
      read_next (heldJoins.listed (fun _ => rfl) (reads_joins all)) rfl

theorem reads_groups : (groups : List TableGroup) →
    Reads (.list (.node .tableGroup)) tableGroups (.array (TableGroup.listToJson groups)) groups
  | [] => .nil fun _ => rfl
  | group :: groups => .cons (fun _ _ => rfl) (reads_group group) (reads_groups groups)

end

/-! ### Statements -/

theorem reads_assignment (item : Assignment) :
    Reads (.node .assignment) assignment item.toJson item := by
  refine .record rfl fun depth value record opened held => ?_
  obtain ⟨heldColumn, heldValue, -⟩ := held
  exact read_next opened <| read_next (heldColumn.required (reads_column _)) <|
    read_next (heldValue.required (reads_expr _)) rfl

theorem reads_conflictAction (action : ConflictAction) :
    Reads (.node .conflictAction) conflictAction action.toJson action := by
  cases action with
  | doNothing =>
    intro loose depth loosens _
    rw [loosens.eq_of_flat rfl]
    cases depth <;> rfl
  | doUpdate items =>
    exact .alternative (by decide) (fun _ _ => rfl) <|
      (reads_list reads_assignment items).map ConflictAction.doUpdate

theorem reads_conflict (clause : Conflict) :
    Reads (.node .conflict) conflict clause.toJson clause := by
  refine .record rfl fun depth value record opened held => ?_
  obtain ⟨heldAction, heldName, heldColumns, heldPredicate, -⟩ := held
  exact read_next opened <| read_next (heldAction.required (reads_conflictAction _)) <|
    read_next (heldName.optional (reads_optionalText _)) <|
    read_next (heldColumns.listed (fun _ => rfl) (reads_texts _)) <|
    read_next (heldPredicate.optional (reads_optionalPredicate _)) rfl

theorem reads_insertSource (source : InsertSource) :
    Reads (.node .insertSource) insertSource source.toJson source := by
  cases source with
  | values rows =>
    exact .alternative (by decide) (fun _ _ => rfl) <|
      (reads_list reads_exprs rows).map InsertSource.values
  | query inner =>
    exact .alternative (by decide) (fun _ _ => rfl) ((reads_query inner).map InsertSource.query)

theorem reads_insert (change : Insert) : Reads (.node .insert) insert change.toJson change := by
  refine .record rfl fun depth value record opened held => ?_
  obtain ⟨heldTarget, heldColumns, heldSource, heldConflict, heldReturning, -⟩ := held
  exact read_next opened <| read_next (heldTarget.required (reads_namedTable _)) <|
    read_next (heldColumns.listed (fun _ => rfl) (reads_texts _)) <|
    read_next (heldSource.required (reads_insertSource _)) <|
    read_next (heldConflict.optional (.ofOption (fun _ => Json.noConfusion) reads_conflict _)) <|
    read_next (heldReturning.listed (fun _ => rfl) (reads_list reads_column _)) rfl

theorem reads_update (change : Update) : Reads (.node .update) update change.toJson change := by
  refine .record rfl fun depth value record opened held => ?_
  obtain ⟨heldTarget, heldAssignments, heldRestriction, heldReturning, -⟩ := held
  exact read_next opened <| read_next (heldTarget.required (reads_namedTable _)) <|
    read_next (heldAssignments.required (reads_list reads_assignment _)) <|
    read_next (heldRestriction.optional (reads_optionalPredicate _)) <|
    read_next (heldReturning.listed (fun _ => rfl) (reads_list reads_column _)) rfl

theorem reads_delete (change : Delete) : Reads (.node .delete) delete change.toJson change := by
  refine .record rfl fun depth value record opened held => ?_
  obtain ⟨heldTarget, heldRestriction, heldReturning, -⟩ := held
  exact read_next opened <| read_next (heldTarget.required (reads_namedTable _)) <|
    read_next (heldRestriction.optional (reads_optionalPredicate _)) <|
    read_next (heldReturning.listed (fun _ => rfl) (reads_list reads_column _)) rfl

theorem reads_statement (s : Statement) :
    Reads (.node .statement) statement s.toJson s := by
  cases s with
  | select inner =>
    exact .alternative (by decide) (fun _ _ => rfl) ((reads_query inner).map Statement.select)
  | insert change =>
    exact .alternative (by decide) (fun _ _ => rfl) ((reads_insert change).map Statement.insert)
  | update change =>
    exact .alternative (by decide) (fun _ _ => rfl) ((reads_update change).map Statement.update)
  | delete change =>
    exact .alternative (by decide) (fun _ _ => rfl) ((reads_delete change).map Statement.delete)

end PortableSql.Form
