import QuadOpt.Proofs.Run

/-!
# What a run has solved

A refused problem leaves no mark on a machine, and a switch of forced cold starts leaves none but
itself. So what a run leaves is what its latest solve left. The solves of a run are written down by a
machine that goes along with the one at hand.
-/

namespace QuadOpt

/-- Whether a machine takes the step at all: it refuses a problem that does not fit its dimensions. -/
def Step.accepted : Step → Bool
  | .solve p => p.mismatch?.isNone
  | .force _ => true

theorem Problem.check_of_mismatch? {p : Problem} {m : Mismatch} (h : p.mismatch? = some m) :
    p.check = .error m := by
  unfold check
  split <;> simp_all

namespace Machine

/-- A solve of a problem that was not refused, with the machine before and after it. -/
structure Entry (σ : Type) where
  problem : CheckedProblem
  before : σ
  after : σ

variable {C σ : Type} (M : Machine C σ)

/-- The same machine, writing down its solves. -/
def recording : Machine C (List (Entry σ) × σ) where
  solve s p := (fun t => (s.1 ++ [⟨p, s.2, t⟩], t)) <$> M.solve s.2 p
  setForce s on := (s.1, M.setForce s.2 on)

/-- The solves of a run that were not refused, in order. -/
def history (s : σ) (xs : List Step) : List (Entry σ) := (M.recording.run ([], s) xs).value.1

def latest? (s : σ) (xs : List Step) : Option (Entry σ) := (M.history s xs).getLast?

theorem value_step_recording (t : List (Entry σ) × σ) (x : Step) :
    (M.recording.step t x).value.2 = (M.step t.2 x).value := by
  cases x with
  | solve p =>
    cases hp : p.check with
    | ok q =>
      rw [M.step_of_ok hp, M.recording.step_of_ok hp]
      rfl
    | error m =>
      rw [M.step_of_error hp, M.recording.step_of_error hp]
      rfl
  | force on => rfl

theorem value_run_recording (t : List (Entry σ) × σ) (xs : List Step) :
    (M.recording.run t xs).value.2 = (M.run t.2 xs).value := by
  induction xs generalizing t with
  | nil => rfl
  | cons x xs ih =>
    rw [run, run, Traced.value_bind, Traced.value_bind, ih, value_step_recording]

/-- What holds at first, after each solve and after each switch holds after every run, of the solves
so far and the state. -/
theorem history_invariant {I : List (Entry σ) → σ → Prop}
    (hsolve : ∀ es s p, I es s → I (es ++ [⟨p, s, (M.solve s p).value⟩]) (M.solve s p).value)
    (hforce : ∀ es s on, I es s → I es (M.setForce s on))
    {s : σ} (h : I [] s) (xs : List Step) : I (M.history s xs) (M.run s xs).value := by
  rw [← M.value_run_recording ([], s)]
  exact M.recording.run_invariant (I := fun _ t => I t.1 t.2)
    (fun _ t p ht => hsolve t.1 t.2 p ht) (fun _ t on ht => hforce t.1 t.2 on ht) h xs

/-! ## From solves to runs -/

section

variable {M} {P : σ → Prop} (hforce : ∀ s on, P s → P (M.setForce s on))

include hforce

/-- A run without solves keeps what switches keep. -/
theorem run_of_latest?_eq_none {s : σ} {xs : List Step} (h : M.latest? s xs = none) (hs : P s) :
    P (M.run s xs).value := by
  refine M.history_invariant (I := fun es t => es.getLast? = none → P t) ?_ ?_ (fun _ => hs) xs h
  · intro es t p _ hnone
    simp at hnone
  · exact fun es t on ht hnone => hforce t on (ht hnone)

/-- What the latest solve left is there after the run, as far as switches keep it. -/
theorem run_of_latest? {s : σ} {xs : List Step} {e : Entry σ} (h : M.latest? s xs = some e)
    (he : P e.after) : P (M.run s xs).value := by
  refine M.history_invariant (I := fun es t => ∀ e, es.getLast? = some e → P e.after → P t) ?_ ?_
    (by simp) xs e h he
  · intro es t p _ e hlast he
    rw [List.getLast?_concat, Option.some.injEq] at hlast
    subst hlast
    exact he
  · exact fun es t on ht e hlast he => hforce t on (ht e hlast he)

end

/-- Every solve is one of a state that the machine was in, and what it left is what solving gives. -/
theorem mem_history {P : σ → Prop} (hsolve : ∀ s p, P s → P (M.solve s p).value)
    (hforce : ∀ s on, P s → P (M.setForce s on)) {s : σ} (hs : P s) {xs : List Step} {e : Entry σ}
    (h : e ∈ M.history s xs) : P e.before ∧ e.after = (M.solve e.before e.problem).value := by
  refine (M.history_invariant
    (I := fun es t => P t ∧ ∀ e ∈ es, P e.before ∧ e.after = (M.solve e.before e.problem).value)
    ?_ ?_ ⟨hs, by simp⟩ xs).2 e h
  · rintro es t p ⟨ht, hes⟩
    refine ⟨hsolve t p ht, fun e he => ?_⟩
    rcases List.mem_append.1 he with he | he
    · exact hes e he
    · rw [List.mem_singleton.1 he]
      exact ⟨ht, rfl⟩
  · rintro es t on ⟨ht, hes⟩
    exact ⟨hforce t on ht, hes⟩

/-! ## Refused problems -/

theorem step_of_not_accepted {x : Step} (h : x.accepted = false) (s : σ) : M.step s x = pure s := by
  cases x with
  | solve p =>
    simp only [Step.accepted, Option.isNone_eq_false_iff, Option.isSome_iff_exists] at h
    obtain ⟨m, hm⟩ := h
    exact M.step_of_error (Problem.check_of_mismatch? hm) s
  | force on => cases h

/-- Without its refused problems a run is the same run. -/
theorem run_filter_accepted (s : σ) (xs : List Step) :
    M.run s (xs.filter Step.accepted) = M.run s xs := by
  induction xs generalizing s with
  | nil => rfl
  | cons x xs ih =>
    cases hx : x.accepted with
    | true =>
      rw [List.filter_cons_of_pos hx, run, run]
      exact congrArg (M.step s x >>= ·) (funext ih)
    | false =>
      rw [List.filter_cons_of_neg (by simp [hx]), ih, run, M.step_of_not_accepted hx, pure_bind]

end Machine

end QuadOpt
