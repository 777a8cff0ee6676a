import Mathlib
import QuadOpt.Matrix.Stack

/-!
# Storage with guards

A matrix made of others is filled in place: each block is copied into its rows of a buffer of zeros.
Rows are dropped by copying the ones whose places were kept. Every such step has a condition, and here
it is checked before the step is made. The first condition that does not hold is the violation; where
all hold, the result is the one that stacking and filtering give.
-/

namespace QuadOpt.Guarded

/-- The condition of a step that does not hold. -/
inductive Violation where
  /-- A block is not as wide as the matrix it goes into was announced to be. -/
  | blockWidth
  /-- The rows to write are not all in the buffer. -/
  | rowWindow
  /-- The rows to write and the block to write there differ in shape. -/
  | blockShape
  /-- There is no element at a place. -/
  | place
  /-- A vector gets more or fewer elements than were announced. -/
  | count
  deriving DecidableEq, Repr

variable {α β : Type}

theorem ok_bind (a : α) (f : α → Except Violation β) : (Except.ok a >>= f) = f a := rfl

/-! ## Blocks -/

/-- Copies a block into the rows of a buffer from `offset` on. -/
def copyRows (buffer : Matrix α) (offset : ℕ) (block : Matrix α) : Except Violation (Matrix α) :=
  if buffer.nrows < offset + block.nrows then .error .rowWindow
  else if h : block.ncols = buffer.ncols then
    .ok ⟨buffer.ncols, buffer.rows.take offset ++ block.rows.map (·.cast h) ++
      buffer.rows.drop (offset + block.nrows)⟩
  else .error .blockShape

/-- Copies the blocks one below the other, the first of them to `offset`. -/
def stackFrom (ncols : ℕ) : (buffer : Matrix α) → (offset : ℕ) → List (Matrix α) →
    Except Violation (Matrix α)
  | buffer, _, [] => .ok buffer
  | buffer, offset, block :: blocks =>
    if block.ncols = ncols then do
      stackFrom ncols (← copyRows buffer offset block) (offset + block.nrows) blocks
    else .error .blockWidth

def stack [OfNat α 0] (ncols : ℕ) (blocks : List (Matrix α)) : Except Violation (Matrix α) :=
  stackFrom ncols (.zeros (blocks.map Matrix.nrows).sum ncols) 0 blocks

theorem copyRows_eq_ok {n : ℕ} (before window after : List (Vector α n)) (b : Matrix.Block α n)
    (h : window.length = b.1.nrows) :
    copyRows ⟨n, before ++ window ++ after⟩ before.length b.1 =
      .ok ⟨n, before ++ b.rows ++ after⟩ := by
  have hlength : (before ++ window).length = before.length + b.1.nrows := by
    rw [List.length_append, h]
  have htake : (before ++ window ++ after).take before.length = before := by
    rw [List.append_assoc, List.take_left]
  have hdrop : (before ++ window ++ after).drop (before.length + b.1.nrows) = after := by
    rw [← hlength, List.drop_left]
  unfold copyRows
  rw [if_neg (by simp only [Matrix.nrows, List.length_append] at hlength ⊢; omega), dif_pos b.2]
  simp only [htake, hdrop]
  rfl

/-- What stands before the first window is untouched, and so is what stands behind the last one. -/
theorem stackFrom_eq_ok {n : ℕ} (blocks : List (Matrix.Block α n))
    (before fill after : List (Vector α n))
    (h : fill.length = ((blocks.map (·.1)).map Matrix.nrows).sum) :
    stackFrom n ⟨n, before ++ fill ++ after⟩ before.length (blocks.map (·.1)) =
      .ok ⟨n, before ++ blocks.flatMap Matrix.Block.rows ++ after⟩ := by
  induction blocks generalizing before fill with
  | nil =>
    have hfill : fill = [] := List.eq_nil_of_length_eq_zero h
    rw [hfill]
    rfl
  | cons b blocks ih =>
    simp only [List.map_cons, List.sum_cons] at h ih
    -- The zeros to be overwritten are the window of this block and those of the blocks behind it.
    obtain ⟨window, rest, rfl, hwindow⟩ : ∃ window rest, fill = window ++ rest ∧
        window.length = b.1.nrows :=
      ⟨fill.take b.1.nrows, fill.drop b.1.nrows, (List.take_append_drop _ _).symm,
        List.length_take_of_le (by omega)⟩
    have hcopy := copyRows_eq_ok before window (rest ++ after) b hwindow
    have hrest := ih (before ++ b.rows) rest (by rw [List.length_append] at h; omega)
    rw [List.length_append, Matrix.Block.length_rows] at hrest
    simp only [List.append_assoc] at hcopy hrest
    rw [List.map_cons, stackFrom, if_pos b.2, List.flatMap_cons]
    simp only [List.append_assoc, hcopy]
    exact hrest

variable [OfNat α 0]

theorem stack_eq_ok {n : ℕ} (blocks : List (Matrix.Block α n)) :
    stack n (blocks.map (·.1)) = .ok (.vstack blocks) := by
  obtain ⟨zeros, hzeros, hlength⟩ : ∃ zeros : List (Vector α n),
      .zeros ((blocks.map (·.1)).map Matrix.nrows).sum n = (⟨n, zeros⟩ : Matrix α) ∧
        zeros.length = ((blocks.map (·.1)).map Matrix.nrows).sum :=
    ⟨_, rfl, Matrix.nrows_ofFn _ _ _⟩
  have hstack := stackFrom_eq_ok blocks [] zeros [] hlength
  rw [List.nil_append, List.append_nil, List.nil_append, List.append_nil] at hstack
  rw [stack, hzeros]
  exact hstack

/-! ## Elements -/

omit [OfNat α 0]

def element (xs : List α) (i : ℕ) : Except Violation α :=
  match xs[i]? with
  | some a => .ok a
  | none => .error .place

/-- The elements at the given places. -/
def select (xs : List α) (places : List ℕ) : Except Violation (List α) := places.mapM (element xs)

/-- The places, of the given ones, at which an element passes the test. -/
def placesWhere (test : α → Bool) (xs : List α) : List ℕ → Except Violation (List ℕ)
  | [] => .ok []
  | i :: places => do
    let a ← element xs i
    let others ← placesWhere test xs places
    return if test a then i :: others else others

/-- A vector of an announced length from the elements that there are. -/
def collect (length : ℕ) (elements : List α) : Except Violation (List α) :=
  if elements.length = length then .ok elements else .error .count

theorem collect_eq_ok {length : ℕ} {elements : List α} (h : elements.length = length) :
    collect length elements = .ok elements := if_pos h

theorem element_eq_ok {xs : List α} {i : ℕ} {a : α} (h : xs[i]? = some a) :
    element xs i = .ok a := by
  rw [element, h]

/-- The places from `start` on of the elements that pass the test. -/
def passing (test : α → Bool) : (start : ℕ) → List α → List ℕ
  | _, [] => []
  | start, a :: xs =>
    if test a then start :: passing test (start + 1) xs else passing test (start + 1) xs

theorem length_passing (test : α → Bool) (start : ℕ) (xs : List α) :
    (passing test start xs).length = (xs.filter test).length := by
  induction xs generalizing start with
  | nil => rfl
  | cons a xs ih => cases htest : test a <;> simp [passing, htest, ih]

theorem placesWhere_eq_ok (test : α → Bool) (before xs : List α) :
    placesWhere test (before ++ xs) (List.range' before.length xs.length) =
      .ok (passing test before.length xs) := by
  induction xs generalizing before with
  | nil => rfl
  | cons a xs ih =>
    have ha : element (before ++ a :: xs) before.length = .ok a :=
      element_eq_ok (by simp)
    have hrest := ih (before ++ [a])
    rw [List.append_assoc, List.length_append] at hrest
    rw [List.length_cons, List.range'_succ, placesWhere, ha, ok_bind]
    rw [show before.length + 1 = before.length + [a].length from rfl,
      show a :: xs = [a] ++ xs from rfl, hrest]
    rfl

/-- The elements at the kept places of one list are paired with the kept elements of the other. -/
theorem select_passing (test : β → Bool) (before : List α) (pairs : List (α × β)) :
    select (before ++ pairs.map (·.1)) (passing test before.length (pairs.map (·.2))) =
      .ok ((pairs.filter (test ·.2)).map (·.1)) := by
  induction pairs generalizing before with
  | nil => rfl
  | cons x pairs ih =>
    have hx : element (before ++ x.1 :: pairs.map (·.1)) before.length = .ok x.1 :=
      element_eq_ok (by simp)
    have hrest := ih (before ++ [x.1])
    rw [List.append_assoc, List.length_append] at hrest
    simp only [List.map_cons, passing]
    cases htest : test x.2 with
    | false =>
      rw [if_neg Bool.false_ne_true, List.filter_cons_of_neg (by simp [htest])]
      exact hrest
    | true =>
      rw [if_pos rfl, List.filter_cons_of_pos (by simpa using htest), List.map_cons, select,
        List.mapM_cons, hx, ok_bind, ← select]
      rw [show before.length + 1 = before.length + [x.1].length from rfl,
        show x.1 :: pairs.map (·.1) = [x.1] ++ pairs.map (·.1) from rfl, hrest]
      rfl

end QuadOpt.Guarded
