import Mathlib.Data.List.Chain
import PortableSql.Proofs.Truth

/-! Conditions and their spelling, in which `not` binds tighter than `and` and `and` than `or`.

`Spells` is the grammar; `Condition.read` is a reader that takes one token after another. The reader
accepts exactly what the grammar derives (`Condition.read_eq_some_iff`), so a spelling has one
meaning.
-/

set_option autoImplicit false

namespace PortableSql

variable {α β : Type}

/-- A condition over tests that are not looked into. -/
inductive Condition (α : Type) where
  | test (t : α)
  | not (inner : Condition α)
  | and (left right : Condition α)
  | or (left right : Condition α)
  deriving DecidableEq, Repr

/-- What a condition amounts to, given that for its tests. -/
def Condition.truth (value : α → Truth) : Condition α → Truth
  | .test t => value t
  | .not inner => (inner.truth value).not
  | .and left right => (left.truth value).and (right.truth value)
  | .or left right => (left.truth value).or (right.truth value)

inductive Token (α : Type) where
  | opening
  | closing
  | not
  | and
  | or
  | test (t : α)
  deriving DecidableEq, Repr

inductive Level where
  | factor
  | conjunction
  | disjunction

/-- The spellings of a condition at a level. -/
inductive Spells : Level → List (Token α) → Condition α → Prop where
  | test (t : α) : Spells .factor [.test t] (.test t)
  | parens {tokens : List (Token α)} {condition : Condition α} :
      Spells .disjunction tokens condition → Spells .factor (.opening :: tokens ++ [.closing]) condition
  | not {tokens : List (Token α)} {condition : Condition α} :
      Spells .factor tokens condition → Spells .factor (.not :: tokens) (.not condition)
  | factor {tokens : List (Token α)} {condition : Condition α} :
      Spells .factor tokens condition → Spells .conjunction tokens condition
  | and {first second : List (Token α)} {left right : Condition α} :
      Spells .conjunction first left → Spells .factor second right →
      Spells .conjunction (first ++ .and :: second) (.and left right)
  | conjunction {tokens : List (Token α)} {condition : Condition α} :
      Spells .conjunction tokens condition → Spells .disjunction tokens condition
  | or {first second : List (Token α)} {left right : Condition α} :
      Spells .disjunction first left → Spells .conjunction second right →
      Spells .disjunction (first ++ .or :: second) (.or left right)

namespace Token

-- Whether an operand can begin with the token.
def begins : Token α → Bool
  | .opening | .not | .test _ => true
  | .closing | .and | .or => false

def ends : Token α → Bool
  | .closing | .test _ => true
  | .opening | .not | .and | .or => false

/-- Behind the end of an operand no operand begins; behind any other token one does. -/
def Meets (first second : Token α) : Prop :=
  first.ends = !second.begins

end Token

/-- Whether all tokens meet, with parentheses around them. So no connective lacks an operand on either
side, and no parentheses are empty. -/
def WellPlaced (tokens : List (Token α)) : Prop :=
  (Token.opening :: (tokens ++ [.closing])).IsChain Token.Meets

theorem WellPlaced.followed {tokens : List (Token α)} (placed : WellPlaced tokens) {token : Token α}
    (follows : token.begins = false) : (Token.opening :: (tokens ++ [token])).IsChain Token.Meets := by
  rw [WellPlaced, ← List.cons_append, List.isChain_append] at placed
  rw [← List.cons_append, List.isChain_append]
  refine ⟨placed.1, .singleton _, fun last isLast next isNext => ?_⟩
  cases isNext
  exact (placed.2.2 last isLast .closing rfl).trans (congrArg (!·) follows.symm)

theorem WellPlaced.preceded {tokens : List (Token α)} (placed : WellPlaced tokens) {token : Token α}
    (precedes : token.ends = false) : (token :: (tokens ++ [.closing])).IsChain Token.Meets := by
  rw [WellPlaced, List.isChain_cons] at placed
  rw [List.isChain_cons]
  exact ⟨fun next isNext => precedes.trans (placed.1 next isNext), placed.2⟩

theorem WellPlaced.join {first second : List (Token α)} (left : WellPlaced first)
    (right : WellPlaced second) {connective : Token α}
    (between : connective.begins = false ∧ connective.ends = false) :
    WellPlaced (first ++ connective :: second) := by
  have before : ((Token.opening :: first) ++ [connective]).IsChain Token.Meets :=
    left.followed between.1
  have whole := List.isChain_split.mpr ⟨before, right.preceded between.2⟩
  simpa [WellPlaced] using whole

theorem WellPlaced.parens {tokens : List (Token α)} (placed : WellPlaced tokens) :
    WellPlaced (.opening :: tokens ++ [.closing]) := by
  have inside : ((Token.opening :: tokens) ++ [Token.closing]).IsChain Token.Meets := placed
  have last : [(Token.closing : Token α), .closing].IsChain Token.Meets := List.isChain_pair.mpr rfl
  have first : Token.Meets (Token.opening : Token α) .opening := rfl
  have closed := List.isChain_split.mpr ⟨inside, last⟩
  simpa [WellPlaced] using List.isChain_cons_cons.mpr ⟨first, closed⟩

theorem Spells.wellPlaced {level : Level} {tokens : List (Token α)} {condition : Condition α}
    (spelled : Spells level tokens condition) : WellPlaced tokens := by
  induction spelled with
  | test t => simp [WellPlaced, Token.Meets, Token.ends, Token.begins]
  | parens _ ih => exact ih.parens
  | not _ ih => exact List.isChain_cons_cons.mpr ⟨rfl, ih.preceded rfl⟩
  | factor _ ih => exact ih
  | and _ _ ihLeft ihRight => exact ihLeft.join ihRight ⟨rfl, rfl⟩
  | conjunction _ ih => exact ih
  | or _ _ ihLeft ihRight => exact ihLeft.join ihRight ⟨rfl, rfl⟩

/-- What is waiting for an operand at one depth of parentheses: a disjunction and a conjunction that
have begun, and negations. -/
structure Pending (α : Type) where
  disjunction : Option (Condition α) := none
  conjunction : Option (Condition α) := none
  negations : Nat := 0

def Condition.denied (condition : Condition α) : Nat → Condition α
  | 0 => condition
  | times + 1 => condition.not.denied times

def Condition.after (begun : Option (Condition α)) (join : Condition α → Condition α → Condition α)
    (operand : Condition α) : Condition α :=
  match begun with
  | none => operand
  | some left => join left operand

/-- A reader of conditions, before an operand or behind one. The pending parts of the parentheses
around the place come innermost first. -/
inductive Reader (α : Type) where
  | before (pending : Pending α) (outer : List (Pending α))
  | behind (disjunction : Option (Condition α)) (conjunction : Condition α) (outer : List (Pending α))

namespace Reader

def start : Reader α := .before {} []

def supply (pending : Pending α) (outer : List (Pending α)) (operand : Condition α) : Reader α :=
  .behind pending.disjunction
    (Condition.after pending.conjunction .and (operand.denied pending.negations)) outer

/-- Take a token, if the place allows for it. -/
def step : Reader α → Token α → Option (Reader α)
  | .before pending outer, .test t => some (supply pending outer (.test t))
  | .before pending outer, .not =>
    some (.before { pending with negations := pending.negations + 1 } outer)
  | .before pending outer, .opening => some (.before {} (pending :: outer))
  | .behind disjunction conjunction outer, .and => some (.before ⟨disjunction, some conjunction, 0⟩ outer)
  | .behind disjunction conjunction outer, .or =>
    some (.before ⟨some (Condition.after disjunction .or conjunction), none, 0⟩ outer)
  | .behind disjunction conjunction (pending :: outer), .closing =>
    some (supply pending outer (Condition.after disjunction .or conjunction))
  | _, _ => none

def run (reader : Reader α) (tokens : List (Token α)) : Option (Reader α) :=
  tokens.foldlM step reader

def result? : Reader α → Option (Condition α)
  | .behind disjunction conjunction [] => some (Condition.after disjunction .or conjunction)
  | _ => none

@[simp] theorem run_nil (reader : Reader α) : reader.run [] = some reader := rfl

@[simp] theorem run_cons (reader : Reader α) (token : Token α) (tokens : List (Token α)) :
    reader.run (token :: tokens) = (reader.step token).bind (·.run tokens) := rfl

@[simp] theorem run_append (reader : Reader α) (first second : List (Token α)) :
    reader.run (first ++ second) = (reader.run first).bind (·.run second) :=
  List.foldlM_append

end Reader

/-- The condition that tokens spell. -/
def Condition.read (tokens : List (Token α)) : Option (Condition α) :=
  (Reader.start.run tokens).bind Reader.result?

namespace Spells

-- The reader's side of a level.
def Read (tokens : List (Token α)) (condition : Condition α) : Level → Prop
  | .factor => ∀ pending outer,
      (Reader.before pending outer).run tokens = some (.supply pending outer condition)
  | .conjunction => ∀ disjunction outer,
      (Reader.before ⟨disjunction, none, 0⟩ outer).run tokens = some (.behind disjunction condition outer)
  | .disjunction => ∃ disjunction conjunction,
      condition = Condition.after disjunction .or conjunction ∧ ∀ outer,
        (Reader.before {} outer).run tokens = some (.behind disjunction conjunction outer)

theorem run {level : Level} {tokens : List (Token α)} {condition : Condition α}
    (spelled : Spells level tokens condition) : Read tokens condition level := by
  induction spelled with
  | test t => intro pending outer; rfl
  | parens _ ih =>
    obtain ⟨disjunction, conjunction, rfl, inner⟩ := ih
    intro pending outer
    simp [Reader.step, inner]
  | not _ ih =>
    intro pending outer
    exact ih { pending with negations := pending.negations + 1 } outer
  | factor _ ih =>
    intro disjunction outer
    exact ih ⟨disjunction, none, 0⟩ outer
  | and _ _ ihLeft ihRight =>
    intro disjunction outer
    simp [ihLeft disjunction outer, Reader.step, ihRight _ outer, Reader.supply, Condition.after,
      Condition.denied]
  | conjunction _ ih => exact ⟨none, _, rfl, fun outer => ih none outer⟩
  | or _ _ ihLeft ihRight =>
    obtain ⟨disjunction, conjunction, rfl, first⟩ := ihLeft
    refine ⟨some _, _, rfl, fun outer => ?_⟩
    simp [first, Reader.step, ihRight _ outer]

theorem denied {tokens : List (Token α)} {condition : Condition α}
    (spelled : Spells .factor tokens condition) (times : Nat) :
    Spells .factor (List.replicate times .not ++ tokens) (condition.denied times) := by
  induction times generalizing tokens condition with
  | zero => exact spelled
  | succ times ih =>
    rw [List.replicate_succ', List.append_assoc]
    exact ih spelled.not

-- Operands of a level and the connective behind them, or nothing at all.
inductive Begun (level : Level) (connective : Token α) :
    Option (Condition α) → List (Token α) → Prop where
  | none : Begun level connective none []
  | some {tokens : List (Token α)} {condition : Condition α} :
      Spells level tokens condition → Begun level connective (some condition) (tokens ++ [connective])

theorem Begun.conjunction {begun : Option (Condition α)} {first second : List (Token α)}
    {operand : Condition α} (before : Begun .conjunction .and begun first)
    (spelled : Spells .factor second operand) :
    Spells .conjunction (first ++ second) (Condition.after begun .and operand) := by
  cases before with
  | none => exact spelled.factor
  | some left =>
    rw [List.append_assoc]
    exact left.and spelled

theorem Begun.disjunction {begun : Option (Condition α)} {first second : List (Token α)}
    {operand : Condition α} (before : Begun .disjunction .or begun first)
    (spelled : Spells .conjunction second operand) :
    Spells .disjunction (first ++ second) (Condition.after begun .or operand) := by
  cases before with
  | none => exact spelled.conjunction
  | some left =>
    rw [List.append_assoc]
    exact left.or spelled

-- The tokens that lead to what is pending at one depth.
inductive Waits : Pending α → List (Token α) → Prop where
  | intro {disjunction conjunction : Option (Condition α)} {first second : List (Token α)}
      (negations : Nat) :
      Begun .disjunction .or disjunction first → Begun .conjunction .and conjunction second →
      Waits ⟨disjunction, conjunction, negations⟩ (first ++ (second ++ List.replicate negations .not))

-- The tokens that lead into open parentheses.
inductive Opened : List (Pending α) → List (Token α) → Prop where
  | nil : Opened [] []
  | cons {outer : List (Pending α)} {pending : Pending α} {first second : List (Token α)} :
      Opened outer first → Waits pending second →
      Opened (pending :: outer) (first ++ (second ++ [.opening]))

-- The tokens that lead to a place.
inductive Leads : List (Token α) → Reader α → Prop where
  | before {outer : List (Pending α)} {pending : Pending α} {first second : List (Token α)} :
      Opened outer first → Waits pending second → Leads (first ++ second) (.before pending outer)
  | behind {outer : List (Pending α)} {disjunction : Option (Condition α)}
      {conjunction : Condition α} {first second third : List (Token α)} :
      Opened outer first → Begun .disjunction .or disjunction second →
      Spells .conjunction third conjunction →
      Leads (first ++ (second ++ third)) (.behind disjunction conjunction outer)

theorem Waits.supply {pending : Pending α} {outer : List (Pending α)}
    {first second third : List (Token α)} {operand : Condition α} (opened : Opened outer first)
    (waits : Waits pending second) (spelled : Spells .factor third operand) :
    Leads (first ++ (second ++ third)) (.supply pending outer operand) := by
  cases waits with
  | intro negations disjunction conjunction =>
    have joined := conjunction.conjunction (spelled.denied negations)
    simpa only [List.append_assoc, Reader.supply] using Leads.behind opened disjunction joined

theorem Leads.step {tokens : List (Token α)} {reader next : Reader α} {token : Token α}
    (leads : Leads tokens reader) (taken : reader.step token = some next) :
    Leads (tokens ++ [token]) next := by
  cases leads with
  | before opened waits =>
    cases token with
    | test t =>
      cases taken
      simpa only [List.append_assoc] using waits.supply opened (.test t)
    | not =>
      cases taken
      cases waits with
      | intro negations disjunction conjunction =>
        have more := Waits.intro (negations + 1) disjunction conjunction
        simpa only [List.append_assoc, List.replicate_succ'] using Leads.before opened more
    | opening =>
      cases taken
      have inside := Leads.before (opened.cons waits) (.intro 0 .none .none)
      simpa using inside
    | closing | and | or => contradiction
  | @behind outer disjunction conjunction first second third opened begun spelled =>
    cases token with
    | and =>
      cases taken
      simpa using Leads.before opened (.intro 0 begun (.some spelled))
    | or =>
      cases taken
      simpa using Leads.before opened (.intro 0 (.some (begun.disjunction spelled)) .none)
    | closing =>
      cases opened with
      | nil => contradiction
      | cons opened waits =>
        cases taken
        simpa using waits.supply opened (.parens (begun.disjunction spelled))
    | test | not | opening => contradiction

theorem Leads.run {before tokens : List (Token α)} {reader next : Reader α}
    (leads : Leads before reader) (taken : reader.run tokens = some next) :
    Leads (before ++ tokens) next := by
  induction tokens generalizing before reader with
  | nil =>
    cases taken
    simpa using leads
  | cons token tokens ih =>
    obtain ⟨middle, first, rest⟩ := Option.bind_eq_some_iff.mp taken
    simpa using ih (leads.step first) rest

end Spells

/-- The reader accepts the spellings of the grammar, and reads them as the grammar does. -/
theorem Condition.read_eq_some_iff {tokens : List (Token α)} {condition : Condition α} :
    read tokens = some condition ↔ Spells .disjunction tokens condition := by
  constructor
  · intro accepted
    obtain ⟨reader, taken, result⟩ := Option.bind_eq_some_iff.mp accepted
    have nothing : Spells.Leads [] (Reader.start : Reader α) := .before .nil (.intro 0 .none .none)
    have leads := nothing.run taken
    cases leads with
    | before => contradiction
    | behind opened begun spelled =>
      cases opened with
      | nil =>
        cases result
        exact begun.disjunction spelled
      | cons => contradiction
  · intro spelled
    obtain ⟨disjunction, conjunction, rfl, taken⟩ := spelled.run
    simp [read, Reader.start, taken, Reader.result?]

end PortableSql
