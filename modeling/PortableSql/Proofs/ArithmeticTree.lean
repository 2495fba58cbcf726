import PortableSql.Proofs.Failure
import PortableSql.Proofs.Traversal
import PortableSql.Syntax.Build

/-! Arithmetic as trees of operations.

An arithmetic expression is a tree of operations with leaf expressions at its leaves. Its type is made up from
pairs of operands, and yet it is a matter of the types of the leaves alone (`SqlType.Combined`), so that operands
may be regrouped and change places. Spanner divides integers exactly where all leaves are integral, at any depth
of the tree (`ArithmeticTree.spelling`).
-/

set_option autoImplicit false

namespace PortableSql

namespace SqlType

/-- The type of an arithmetic expression whose leaves have these types: the widest one if all are integral, double
if one is floating, and numeric otherwise. -/
inductive Combined (types : List SqlType) : SqlType → Prop
  | integral {type : SqlType} (whole : ∀ leaf ∈ types, leaf.isIntegral = true) (mem : type ∈ types)
    (widest : ∀ leaf ∈ types, leaf.width ≤ type.width) : Combined types type
  | floating (present : ∃ leaf ∈ types, leaf.isFloating = true) : Combined types .double
  | numeric (broken : ∃ leaf ∈ types, leaf.isIntegral = false) (absent : ∀ leaf ∈ types, leaf.isFloating = false) :
    Combined types .numeric

/-- Whether a type tells of an operand what the types of its leaves do. -/
structure Represents (types : List SqlType) (type : SqlType) : Prop where
  integral : type.isIntegral = true ↔ ∀ leaf ∈ types, leaf.isIntegral = true
  widest : type.isIntegral = true → type ∈ types ∧ ∀ leaf ∈ types, leaf.width ≤ type.width
  floating : type.isFloating = true ↔ ∃ leaf ∈ types, leaf.isFloating = true

theorem not_floating_of_integral {type : SqlType} (integral : type.isIntegral = true) : type.isFloating = false := by
  cases type <;> first | rfl | contradiction

theorem eq_of_width {first second : SqlType} (integral : first.isIntegral = true) (integral' : second.isIntegral = true)
    (same : first.width = second.width) : first = second := by
  cases first <;> first | contradiction | (cases second <;> first | rfl | contradiction)

theorem wider_cases (left right : SqlType) :
    left.wider right = right ∧ left.width ≤ right.width ∨ left.wider right = left ∧ right.width ≤ left.width := by
  unfold wider
  split_ifs with narrow
  · exact .inl ⟨rfl, narrow⟩
  · exact .inr ⟨rfl, Nat.le_of_not_le narrow⟩

theorem Represents.single (type : SqlType) : Represents [type] type := by
  constructor <;> simp

namespace Combined

variable {types others : List SqlType} {type type' : SqlType}

theorem represents (combined : Combined types type) : Represents types type := by
  cases combined with
  | integral whole mem widest =>
    have sound : type.isIntegral = true := whole type mem
    refine ⟨iff_of_true sound whole, fun _ => ⟨mem, widest⟩, iff_of_false ?_ ?_⟩
    · simp [not_floating_of_integral sound]
    · rintro ⟨leaf, mem, floating⟩
      simp [not_floating_of_integral (whole leaf mem)] at floating
  | floating present =>
    obtain ⟨leaf, mem, floating⟩ := present
    refine ⟨iff_of_false nofun fun whole => ?_, nofun, iff_of_true rfl ⟨leaf, mem, floating⟩⟩
    simp [not_floating_of_integral (whole leaf mem)] at floating
  | numeric broken absent =>
    obtain ⟨leaf, mem, broken⟩ := broken
    refine ⟨iff_of_false nofun fun whole => ?_, nofun, iff_of_false nofun ?_⟩
    · simp [whole leaf mem] at broken
    · rintro ⟨leaf, mem, floating⟩
      simp [absent leaf mem] at floating

/-- The types of the leaves are known by their members alone, and there is one type for them. -/
theorem eq (first : Combined types type) (second : Combined others type')
    (same : ∀ leaf, leaf ∈ types ↔ leaf ∈ others) :
    type = type' := by
  have sound : type.isIntegral = type'.isIntegral := by
    rw [Bool.eq_iff_iff, first.represents.integral, second.represents.integral]
    simp only [same]
  have floating : type.isFloating = type'.isFloating := by
    rw [Bool.eq_iff_iff, first.represents.floating, second.represents.floating]
    simp only [same]
  cases first with
  | integral whole mem widest =>
    have integral : type'.isIntegral = true := sound ▸ whole type mem
    obtain ⟨mem', widest'⟩ := second.represents.widest integral
    exact eq_of_width (whole type mem) integral
      (Nat.le_antisymm (widest' type ((same type).mp mem)) (widest type' ((same type').mpr mem')))
  | floating present =>
    cases second with
    | integral whole mem => exact absurd (sound.trans (whole type' mem)) nofun
    | floating => rfl
    | numeric => contradiction
  | numeric broken absent =>
    cases second with
    | integral whole mem => exact absurd (sound.trans (whole type' mem)) nofun
    | floating => contradiction
    | numeric => rfl

end Combined

/-- Of two operands the type is combined from the leaves of both. -/
theorem Represents.combined {types others : List SqlType} {left right : SqlType} (l : Represents types left)
    (r : Represents others right) : Combined (types ++ others) (.ofArithmetic left right) := by
  unfold ofArithmetic
  split_ifs with integral floating
  · obtain ⟨leftIntegral, rightIntegral⟩ := Bool.and_eq_true_iff.mp integral
    obtain ⟨mem, widest⟩ := l.widest leftIntegral
    obtain ⟨mem', widest'⟩ := r.widest rightIntegral
    have whole := List.forall_mem_append.mpr ⟨l.integral.mp leftIntegral, r.integral.mp rightIntegral⟩
    rcases wider_cases left right with ⟨same, narrow⟩ | ⟨same, narrow⟩ <;> rw [same]
    · exact .integral whole (List.mem_append_right _ mem')
        (List.forall_mem_append.mpr ⟨fun leaf own => (widest leaf own).trans narrow, widest'⟩)
    · exact .integral whole (List.mem_append_left _ mem)
        (List.forall_mem_append.mpr ⟨widest, fun leaf own => (widest' leaf own).trans narrow⟩)
  · refine .floating ?_
    rcases Bool.or_eq_true_iff.mp floating with floating | floating
    · obtain ⟨leaf, mem, own⟩ := l.floating.mp floating
      exact ⟨leaf, List.mem_append_left _ mem, own⟩
    · obtain ⟨leaf, mem, own⟩ := r.floating.mp floating
      exact ⟨leaf, List.mem_append_right _ mem, own⟩
  · refine .numeric ?_ ?_
    · by_contra whole
      have all : ∀ leaf ∈ types ++ others, leaf.isIntegral = true := fun leaf mem =>
        Bool.not_eq_false _ ▸ fun broken => whole ⟨leaf, mem, broken⟩
      obtain ⟨left', right'⟩ := List.forall_mem_append.mp all
      exact integral (Bool.and_eq_true_iff.mpr ⟨l.integral.mpr left', r.integral.mpr right'⟩)
    · intro leaf mem
      refine Bool.eq_false_iff.mpr fun own => floating (Bool.or_eq_true_iff.mpr ?_)
      exact (List.mem_append.mp mem).imp (fun mem => l.floating.mpr ⟨leaf, mem, own⟩)
        fun mem => r.floating.mpr ⟨leaf, mem, own⟩

end SqlType

/-- Arithmetic operations, and what stands at the ends of them. -/
inductive ArithmeticTree (α : Type) where
  | leaf (a : α)
  | operation (left : ArithmeticTree α) (op : ArithmeticOp) (right : ArithmeticTree α)

/-- The tree of an arithmetic expression. Its leaves are no operations themselves. -/
def Expr.tree : Expr → ArithmeticTree Expr
  | .arithmetic left op right => .operation left.tree op right.tree
  | leaf => .leaf leaf

namespace ArithmeticTree

variable {α : Type}

/-- The leaves from left to right. -/
def leaves : ArithmeticTree α → List α
  | .leaf a => [a]
  | .operation left _ right => left.leaves ++ right.leaves

def expr (leafExpr : α → Expr) : ArithmeticTree α → Expr
  | .leaf a => leafExpr a
  | .operation left op right => .arithmetic (left.expr leafExpr) op (right.expr leafExpr)

/-- Whether an operation is a portable division with integral leaves only. -/
def dividesIntegers (integral : α → Bool) (left : ArithmeticTree α) (op : ArithmeticOp) (right : ArithmeticTree α) :
    Bool :=
  op == .dividePortable && (left.leaves ++ right.leaves).all integral

def application (name l r : String) : String :=
  name ++ "(" ++ l ++ "," ++ r ++ ")"

/-- The text of a tree, given which leaves are integral and what is written for each. -/
def spelling (integral : α → Bool) (text : α → String) : ArithmeticTree α → String
  | .leaf a => text a
  | .operation left op right =>
    let l := left.spelling integral text
    let r := right.spelling integral text
    if dividesIntegers integral left op right then application "div" l r
    else if op = .modulo then application "mod" l r
    else "(" ++ l ++ op.text ++ r ++ ")"

theorem leaves_ne_nil : (tree : ArithmeticTree α) → tree.leaves ≠ []
  | .leaf _ => List.cons_ne_nil _ _
  | .operation left _ _ => List.append_ne_nil_of_left_ne_nil left.leaves_ne_nil _

section

variable (leafExpr : α → Expr)

/-- The type of a tree as an operand, be it a leaf. -/
theorem represents_sqlType (tree : ArithmeticTree α) :
    SqlType.Represents (tree.leaves.map fun a => (leafExpr a).sqlType) (tree.expr leafExpr).sqlType := by
  induction tree with
  | leaf a => exact .single (leafExpr a).sqlType
  | operation left op right l r =>
    rw [leaves, List.map_append, expr, Expr.sqlType]
    exact (l.combined r).represents

theorem combined_sqlType (left : ArithmeticTree α) (op : ArithmeticOp) (right : ArithmeticTree α) :
    SqlType.Combined ((operation left op right).leaves.map fun a => (leafExpr a).sqlType)
      ((operation left op right).expr leafExpr).sqlType := by
  rw [leaves, List.map_append, expr, Expr.sqlType]
  exact (left.represents_sqlType leafExpr).combined (right.represents_sqlType leafExpr)

theorem isIntegral_sqlType (tree : ArithmeticTree α) :
    (tree.expr leafExpr).sqlType.isIntegral = tree.leaves.all fun a => (leafExpr a).sqlType.isIntegral := by
  rw [Bool.eq_iff_iff, (tree.represents_sqlType leafExpr).integral, List.forall_mem_map, List.all_eq_true]

theorem isIntegerDivision_expr (left : ArithmeticTree α) (op : ArithmeticOp) (right : ArithmeticTree α) :
    op.isIntegerDivision (left.expr leafExpr) (right.expr leafExpr) =
      dividesIntegers (fun a => (leafExpr a).sqlType.isIntegral) left op right := by
  rw [ArithmeticOp.isIntegerDivision, dividesIntegers, List.all_append, isIntegral_sqlType, isIntegral_sqlType,
    Bool.and_assoc]

/-- What Spanner writes for an operation, given what it writes for the operands. -/
theorem adds_operation {target : Target} (spanner : target.dialect = .spanner) {left right : ArithmeticTree α}
    {l r : String} (op : ArithmeticOp)
    (first : Fragment.Adds target.config (Render.expr target (left.expr leafExpr)) l)
    (second : Fragment.Adds target.config (Render.expr target (right.expr leafExpr)) r) :
    Fragment.Adds target.config (Render.expr target ((operation left op right).expr leafExpr))
      (if dividesIntegers (fun a => (leafExpr a).sqlType.isIntegral) left op right then application "div" l r
        else if op = .modulo then application "mod" l r
        else "(" ++ l ++ op.text ++ r ++ ")") := by
  obtain ⟨dialect, config⟩ := target
  cases spanner
  rw [expr, Render.expr_arithmetic, Render.arithmetic]
  refine .offered .arithmetic ?_
  show Fragment.Adds config ((Spanner.arithmetic _ op _ _ _).getD _) _
  have applied (name : String) : Fragment.Adds config (Render.functionOf name [_, _]) (application name l r) :=
    ((Fragment.Adds.text name).append ((first.append (.text ",")).append second).parens).congr
      (by simp only [application, String.append_assoc])
  rw [Spanner.arithmetic, isIntegerDivision_expr]
  split_ifs with whole modulo
  · exact applied "div"
  · rw [Option.getD_none, Render.standardArithmetic, if_pos modulo]
    exact applied "mod"
  · rw [Option.getD_none, Render.standardArithmetic, if_neg modulo]
    exact ((first.append (.text op.text)).append second).parens

/-- Spanner writes a tree if it writes the leaves. -/
theorem adds_spelling {target : Target} (spanner : target.dialect = .spanner) {text : α → String}
    {tree : ArithmeticTree α}
    (written : ∀ a ∈ tree.leaves, Fragment.Adds target.config (Render.expr target (leafExpr a)) (text a)) :
    Fragment.Adds target.config (Render.expr target (tree.expr leafExpr))
      (tree.spelling (fun a => (leafExpr a).sqlType.isIntegral) text) := by
  induction tree with
  | leaf a => exact written a List.mem_cons_self
  | operation left op right ihLeft ihRight =>
    obtain ⟨l, r⟩ := List.forall_mem_append.mp written
    exact adds_operation leafExpr spanner op (ihLeft l) (ihRight r)

theorem fails_leaf (target : Target) {tree : ArithmeticTree α} {a : α} (mem : a ∈ tree.leaves)
    (fails : (Render.expr target (leafExpr a)).Fails) : (Render.expr target (tree.expr leafExpr)).Fails := by
  induction tree with
  | leaf => exact List.mem_singleton.mp mem ▸ fails
  | operation left op right ihLeft ihRight =>
    rw [expr, Render.expr_arithmetic, Render.arithmetic_fails]
    exact (List.mem_append.mp mem).imp ihLeft ihRight

end

/-- A portable division is written as a division of integers if and only if all its leaves are integral. -/
theorem spelling_division_iff (integral : α → Bool) (text : α → String) (left right : ArithmeticTree α) :
    (operation left .dividePortable right).spelling integral text =
        application "div" (left.spelling integral text) (right.spelling integral text) ↔
      ∀ a ∈ left.leaves ++ right.leaves, integral a = true := by
  rw [← List.all_eq_true, spelling]
  cases whole : (left.leaves ++ right.leaves).all integral with
  | true => simp [dividesIntegers, whole]
  | false =>
    simp only [dividesIntegers, whole, Bool.and_false, Bool.false_eq_true, if_false, iff_false]
    intro same
    have first := congrArg (fun written => written.toList.head?) same
    simp [application] at first

end ArithmeticTree

/-- An expression is put together from its tree again. -/
theorem Expr.expr_tree : (e : Expr) → e.tree.expr id = e
  | .arithmetic left op right => by rw [tree, ArithmeticTree.expr, left.expr_tree, right.expr_tree]
  | .star | .literal _ | .column _ | .parameter _ | .function _ | .window _ _ _ | .tuple _ | .subquery _ _
  | .summarization _ _ => rfl

theorem Expr.combined_sqlType {e : Expr} {left right : ArithmeticTree Expr} {op : ArithmeticOp}
    (tree : e.tree = .operation left op right) : SqlType.Combined (e.tree.leaves.map Expr.sqlType) e.sqlType := by
  have combined := ArithmeticTree.combined_sqlType id left op right
  rw [← tree, e.expr_tree] at combined
  exact combined

namespace Session

/-- What Spanner writes for an expression, by the leaves of its tree. -/
theorem textOf_tree (session : Session) (spanner : session.target.dialect = .spanner) (e : Expr)
    (written : (session.write (.expr e)).2 = none) :
    session.textOf (.expr e) =
      e.tree.spelling (·.sqlType.isIntegral) fun leaf => session.textOf (.expr leaf) := by
  have whole : ¬ (Render.expr session.target (e.tree.expr id)).Fails := by
    rw [e.expr_tree, Fragment.Fails, Option.not_isSome_iff_eq_none]
    exact written
  have leaves : ∀ leaf ∈ e.tree.leaves, Fragment.Adds session.target.config
      (Render.expr session.target (id leaf)) (session.textOf (.expr leaf)) := fun leaf mem =>
    ⟨Option.not_isSome_iff_eq_none.mp fun fails => whole (ArithmeticTree.fails_leaf id _ mem fails),
      (session.textOf_eq (.expr leaf)).symm⟩
  have spelled := (ArithmeticTree.adds_spelling id spanner leaves).sql
  rw [e.expr_tree] at spelled
  exact (session.textOf_eq (.expr e)).trans spelled

/-- The type of an arithmetic expression is combined from the types of its leaves, in whatever order and grouping
they stand. In Spanner's text a portable division at any depth of it divides integers if and only if all leaves
below the division are integral. -/
theorem arithmetic_leaves (session : Session) (left : Expr) (op : ArithmeticOp) (right : Expr) :
    let whole : Expr := .arithmetic left op right
    SqlType.Combined (whole.tree.leaves.map Expr.sqlType) whole.sqlType ∧
      (∀ regrouped : Expr, regrouped.tree.leaves.Perm whole.tree.leaves → regrouped.sqlType = whole.sqlType) ∧
      (session.target.dialect = .spanner → (session.write (.expr whole)).2 = none →
        session.textOf (.expr whole) =
            whole.tree.spelling (·.sqlType.isIntegral) (fun leaf => session.textOf (.expr leaf)) ∧
          (op = .dividePortable →
            (session.textOf (.expr whole) =
                ArithmeticTree.application "div" (session.textOf (.expr left)) (session.textOf (.expr right)) ↔
              ∀ leaf ∈ left.tree.leaves ++ right.tree.leaves, leaf.sqlType.isIntegral = true))) := by
  intro whole
  have combined : SqlType.Combined (whole.tree.leaves.map Expr.sqlType) whole.sqlType :=
    whole.combined_sqlType rfl
  refine ⟨combined, fun regrouped same => ?_, fun spanner written => ⟨session.textOf_tree spanner whole written, ?_⟩⟩
  · cases tree : regrouped.tree with
    | leaf a =>
      -- an operation has two leaves at least
      have count := same.length_eq
      have l := List.length_pos_of_ne_nil left.tree.leaves_ne_nil
      have r := List.length_pos_of_ne_nil right.tree.leaves_ne_nil
      rw [tree, Expr.tree, ArithmeticTree.leaves, ArithmeticTree.leaves, List.length_append,
        List.length_singleton] at count
      omega
    | operation l o r =>
      exact (regrouped.combined_sqlType tree).eq combined fun type => (same.map Expr.sqlType).mem_iff
  · rintro rfl
    have sound : ¬ (Render.expr session.target whole).Fails := Option.not_isSome_iff_eq_none.mpr written
    rw [Render.expr_arithmetic, Render.arithmetic_fails, not_or] at sound
    rw [session.textOf_tree spanner whole written,
      session.textOf_tree spanner left (Option.not_isSome_iff_eq_none.mp sound.1),
      session.textOf_tree spanner right (Option.not_isSome_iff_eq_none.mp sound.2)]
    exact ArithmeticTree.spelling_division_iff _ _ left.tree right.tree

/-- `(a + b) / (c / d)`, of columns that are integers but for one. -/
theorem arithmetic_leaves_mixed :
    let session : Session := ⟨⟨.spanner, .spanner⟩, [], []⟩
    let left : Expr := .arithmetic (.typed "a" .tinyInt) .add (.typed "b" .bigInt)
    let right : Expr := .arithmetic (.typed "c" .integer) .dividePortable (.typed "d" .double)
    session.target.dialect = .spanner ∧
      (session.write (.expr (.arithmetic left .dividePortable right))).2 = none ∧
      SqlType.Combined [.tinyInt, .bigInt, .integer, .double] .double ∧
      session.textOf (.expr (.arithmetic left .dividePortable right)) = "((a+b)/(c/d))" ∧
      session.textOf (.expr (.arithmetic left .dividePortable left)) = "div((a+b),(a+b))" := by
  intro session left right
  have broken := session.arithmetic_leaves left .dividePortable right
  have whole := session.arithmetic_leaves left .dividePortable left
  exact ⟨rfl, rfl, broken.1, (broken.2.2 rfl rfl).1.trans (by decide +kernel),
    (whole.2.2 rfl rfl).1.trans (by decide +kernel)⟩

end Session

end PortableSql
