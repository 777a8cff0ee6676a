import Mathlib.Data.List.Induction
import QuadOpt.Solve.WarmStart

/-!
# What is remembered of the solves before

Outcomes are recorded and forgotten, and in between starts are planned and the memory is copied, any
number of times and in any order. Of all this only the last outcome counts, and only if it was not
forgotten since.
-/

namespace QuadOpt.WarmStart

/-- What is done with the memory of a solve. -/
inductive Act where
  | plan (dims : Dims) (forceInitialize : Bool)
  | record (dims : Dims) (succeeded : Bool)
  | reset
  | clone
  deriving DecidableEq, Repr

/-- Planning a start only looks at the memory, and a copy takes over both of its parts. -/
def act (w : WarmStart) : Act → WarmStart
  | .plan _ _ => w
  | .record dims succeeded => w.record dims succeeded
  | .reset => w.reset
  | .clone => ⟨w.cachedDims, w.lastSucceeded⟩

def run (w : WarmStart) (acts : List Act) : WarmStart := acts.foldl act w

def Act.changes : Act → Bool
  | record _ _ => true
  | reset => true
  | _ => false

/-- The last act that recorded or forgot. -/
def lastChange? (acts : List Act) : Option Act := (acts.filter Act.changes).getLast?

/-- What one act leaves in any memory. -/
def afterChange : Option Act → WarmStart
  | some (.record dims succeeded) => ⟨some dims, succeeded⟩
  | _ => new

theorem act_of_not_changes {a : Act} (h : a.changes = false) (w : WarmStart) : w.act a = w := by
  cases a with
  | plan dims force => rfl
  | clone => rfl
  | record dims succeeded => cases h
  | reset => cases h

theorem act_of_changes {a : Act} (h : a.changes = true) (w : WarmStart) :
    w.act a = afterChange (some a) := by
  cases a with
  | record dims succeeded => rfl
  | reset => rfl
  | plan dims force => cases h
  | clone => cases h

theorem run_concat (w : WarmStart) (acts : List Act) (a : Act) :
    w.run (acts ++ [a]) = (w.run acts).act a := by
  simp only [run, List.foldl_append, List.foldl_cons, List.foldl_nil]

theorem lastChange?_concat (acts : List Act) (a : Act) :
    lastChange? (acts ++ [a]) = if a.changes then some a else lastChange? acts := by
  unfold lastChange?
  rw [List.filter_append]
  cases h : a.changes <;> simp [h]

/-- The last change alone says what is remembered. -/
theorem run_new_eq (acts : List Act) : new.run acts = afterChange (lastChange? acts) := by
  -- By induction from the end: each act either decides everything or nothing.
  induction acts using List.reverseRecOn with
  | nil => rfl
  | append_singleton acts a ih =>
    rw [run_concat, lastChange?_concat, ih]
    cases h : a.changes with
    | true => exact act_of_changes h _
    | false => exact act_of_not_changes h _

theorem changes_of_lastChange? {acts : List Act} {a : Act} (h : lastChange? acts = some a) :
    a.changes = true :=
  (List.mem_filter.1 (List.mem_of_getLast? h)).2

theorem afterChange_eq_iff (last : Option Act) (d : Dims) (ok : Bool) :
    afterChange last = ⟨some d, ok⟩ ↔ last = some (.record d ok) := by
  unfold afterChange
  split
  · simp
  · next h => exact iff_of_false (by simp [new]) (h d ok)

theorem state_eq_warm_iff (w : WarmStart) : w.state = .warm ↔ ∃ d, w = ⟨some d, true⟩ := by
  obtain ⟨cached, succeeded⟩ := w
  cases cached <;> cases succeeded <;> simp [state]

theorem cachedDims_eq_some_iff (w : WarmStart) (d : Dims) :
    w.cachedDims = some d ↔ ∃ ok, w = ⟨some d, ok⟩ := by
  obtain ⟨cached, succeeded⟩ := w
  simp

theorem cachedDims_afterChange_eq_none_iff {acts : List Act} :
    (afterChange (lastChange? acts)).cachedDims = none ↔
      lastChange? acts = none ∨ lastChange? acts = some .reset := by
  cases h : lastChange? acts with
  | none => simp [afterChange, new]
  | some a =>
    have hchanges := changes_of_lastChange? h
    cases a with
    | record dims succeeded => simp [afterChange]
    | reset => simp [afterChange, new]
    | plan dims force => cases hchanges
    | clone => cases hchanges

/-- A start is planned warm, the state is warm and the dimensions are known just as the last outcome
says, whatever was done before it and whatever was planned and copied since. -/
theorem remembers_last_outcome (acts : List Act) (dims : Dims) (force : Bool) :
    let w := new.run acts
    (w.plan dims force = .warm ↔ force = false ∧ lastChange? acts = some (.record dims true)) ∧
      (w.state = .warm ↔ ∃ d, lastChange? acts = some (.record d true)) ∧
      (∀ d, w.cachedDims = some d ↔ ∃ ok, lastChange? acts = some (.record d ok)) ∧
      (w.cachedDims = none ↔ lastChange? acts = none ∨ lastChange? acts = some .reset) ∧
      (∀ a, a.changes = false → w.act a = w) ∧ new.run (acts.filter Act.changes) = w := by
  intro w
  have hw : w = afterChange (lastChange? acts) := run_new_eq acts
  refine ⟨?_, ?_, fun d => ?_, ?_, fun a ha => act_of_not_changes ha w, ?_⟩
  · rw [plan_eq_warm_iff, ← afterChange_eq_iff, ← hw]
    obtain ⟨cached, succeeded⟩ := w
    simp
  · simp only [state_eq_warm_iff, ← afterChange_eq_iff, ← hw]
  · simp only [cachedDims_eq_some_iff, ← afterChange_eq_iff, ← hw]
  · rw [hw, cachedDims_afterChange_eq_none_iff]
  · rw [run_new_eq, hw, lastChange?, List.filter_filter]
    simp [lastChange?]

end QuadOpt.WarmStart
