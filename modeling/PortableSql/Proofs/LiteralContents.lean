import PortableSql.Proofs.OwnContents
import PortableSql.Proofs.Template

/-! The contents of string literals have no part in the structure of a statement.

Statements that differ in the contents of their string literals are refused for the same cause, or have
one template with the contents in its slots, and the same parameters, tables and locks. If no name has
a quote in it then a scanner of string literals takes all their texts apart in the same way, so that no
content is ever read as anything but one literal.
-/

set_option autoImplicit false

namespace PortableSql

/-- Whether no name of a statement and no text of the configuration in it has a quote. -/
def Statement.Unquoted (statement : Statement) (config : Config) : Prop :=
  (∀ node, (Node.statement statement).Within node → ∀ name ∈ node.names, '\'' ∉ name.toList) ∧
    ∀ words ∈ config.statementTexts, '\'' ∉ words.toList

namespace OpenFragment

variable (form : OpenFragment) (config : Config) (contents : Contents)

theorem sqlText_fill :
    Mark.sqlText config (form.fill contents).marks = (form.template config).text config contents := by
  simp only [Mark.sqlText, Template.text, fill, template, List.map_map]
  refine congrArg String.join (List.map_congr_left fun mark _ => ?_)
  cases mark <;> rfl

/-- A view of marks that passes over literals does not see the contents. -/
theorem filterMap_fill {α : Type} (view : Mark → Option α)
    (blind : ∀ content, view (.literal content) = none) :
    (form.fill contents).marks.filterMap view = (form.fill .own).marks.filterMap view := by
  simp only [fill, List.filterMap_map]
  refine List.filterMap_congr fun mark _ => ?_
  cases mark with
  | fixed mark => rfl
  | slot path own => exact (blind _).trans (blind _).symm

theorem rendering_fill (whole : form.failure = none) :
    (form.fill contents).rendering config = .ok {
      sql := (form.template config).text config contents
      bindings := Mark.bindings (form.fill .own).marks
      tables := Mark.tables (form.fill .own).marks
      lock := Mark.lockStrategy (form.fill .own).marks } := by
  have failure : (form.fill contents).failure = none := whole
  rw [Fragment.rendering, failure]
  simp only [Rendering.ofMarks, sqlText_fill, Mark.bindings, Mark.parameters, Mark.tables, Mark.lockStrategy,
    form.filterMap_fill contents Mark.parameter? fun _ => rfl,
    form.filterMap_fill contents Mark.table? fun _ => rfl,
    form.filterMap_fill contents Mark.lockStrategy? fun _ => rfl]

end OpenFragment

theorem Statement.opens (statement : Statement) (target : Target) :
    Opens target.config (statement.Unquoted target.config) true
      (fun contents => Render.statement target (statement.withContents contents)) true := by
  have rules : Composes target.config (fun name => statement.Unquoted target.config → '\'' ∉ name.toList)
      (fun _ => True) (fun _ _ => True) (Opens target.config (statement.Unquoted target.config)) :=
    Opens.composes fun unquoted => unquoted.2 _ (List.mem_cons_of_mem _ List.mem_cons_self)
  have lowercase : statement.Unquoted target.config → '\'' ∉ target.config.lowercaseFunction.toList :=
    fun unquoted => unquoted.2 _ List.mem_cons_self
  exact rules.node lowercase (.statement statement)
    { names := fun node within name mem unquoted => unquoted.1 node within name mem
      strings := fun _ _ _ _ => trivial
      operands := fun _ _ _ _ => trivial } {} nofun

/-- The contents of string literals never change the structure of a statement. -/
theorem Statement.render_withContents (statement : Statement) (target : Target) :
    (∃ cause, ∀ contents, (statement.withContents contents).render target = .error cause) ∨
    ∃ (template : Template) (bindings : List Binding) (tables : NameSet) (lock : LockStrategy),
      (∀ contents, (statement.withContents contents).render target =
        .ok ⟨template.text target.config contents, bindings, tables, lock⟩) ∧
      (statement.Unquoted target.config → ∀ contents,
        template.Spaced target.config contents [] ∧
        target.config.literalEscape.scan (template.text target.config contents).toList =
          template.pieces target.config contents) := by
  obtain ⟨form, same, reads⟩ := statement.opens target
  have rendered (contents : Contents) :
      (statement.withContents contents).render target = (form.fill contents).rendering target.config :=
    congrArg (Fragment.rendering target.config) (congrFun same contents)
  cases failure : form.failure with
  | some cause =>
    refine .inl ⟨cause, fun contents => ?_⟩
    have failed : (form.fill contents).failure = some cause := failure
    rw [rendered, Fragment.rendering, failed]
  | none =>
    refine .inr ⟨form.template target.config, Mark.bindings (form.fill .own).marks,
      Mark.tables (form.fill .own).marks, Mark.lockStrategy (form.fill .own).marks, ?_, ?_⟩
    · exact fun contents => (rendered contents).trans (form.rendering_fill target.config contents failure)
    · intro unquoted contents
      obtain ⟨_, whole, spaced⟩ := reads unquoted failure contents [] nofun
      rw [List.append_nil] at whole
      exact ⟨spaced, whole.trans (List.append_nil _)⟩

/-- A deletion of the rows in which a column equals some text. -/
theorem Statement.render_withContents_deletion :
    let statement : Statement := .delete ⟨{ table := "t" },
      some (.comparison (.column { name := "a" }) .eq (.literal (.string "it's"))), []⟩
    let target : Target := ⟨.spanner, .spanner⟩
    statement.Unquoted target.config ∧
    ∃ (template : Template) (bindings : List Binding) (tables : NameSet) (lock : LockStrategy),
      (∀ contents, (statement.withContents contents).render target =
        .ok ⟨template.text target.config contents, bindings, tables, lock⟩) ∧
      ∀ contents, template.Spaced target.config contents [] ∧
        target.config.literalEscape.scan (template.text target.config contents).toList =
          template.pieces target.config contents := by
  intro statement target
  have unquoted : statement.Unquoted target.config := by
    refine ⟨fun node within => ?_, by decide⟩
    rcases within.cases_head with rfl | ⟨child, mem, within⟩
    · decide
    cases List.mem_singleton.mp mem
    rcases within.cases_head with rfl | ⟨child, mem, within⟩
    · decide
    rcases List.mem_pair.mp mem with rfl | rfl
    · rcases within.cases_head with rfl | ⟨child, mem, within⟩
      · decide
      · exact absurd mem List.not_mem_nil
    · rcases within.cases_head with rfl | ⟨child, mem, within⟩
      · decide
      · exact absurd mem List.not_mem_nil
  refine ⟨unquoted, ?_⟩
  rcases statement.render_withContents target with
    ⟨cause, fails⟩ | ⟨template, bindings, tables, lock, rendered, reads⟩
  · have written : ∃ rendering, (statement.withContents .own).render target = .ok rendering := ⟨_, rfl⟩
    obtain ⟨rendering, written⟩ := written
    exact absurd (written.symm.trans (fails .own)) nofun
  · exact ⟨template, bindings, tables, lock, rendered, reads unquoted⟩

end PortableSql
