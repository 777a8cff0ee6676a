/-!
# Dense matrices

A matrix is a list of rows of one width. The width is part of the matrix, so one without rows still
has columns, and no entry is ever out of place.
-/

namespace QuadOpt

structure Matrix (α : Type) where
  ncols : Nat
  rows : List (Vector α ncols)
  deriving DecidableEq, Repr

namespace Matrix

variable {α β : Type}

def nrows (m : Matrix α) : Nat := m.rows.length

/-- The matrix with `f r c` in row `r` and column `c`. -/
def ofFn (nrows ncols : Nat) (f : Fin nrows → Fin ncols → α) : Matrix α :=
  ⟨ncols, List.ofFn fun r => Vector.ofFn (f r)⟩

@[simp] theorem ncols_ofFn (r c : Nat) (f : Fin r → Fin c → α) : (ofFn r c f).ncols = c := rfl

@[simp] theorem nrows_ofFn (r c : Nat) (f : Fin r → Fin c → α) : (ofFn r c f).nrows = r := by
  simp [nrows, ofFn]

/-- The entry in row `r` and column `c`. -/
def entry (m : Matrix α) (r : Fin m.nrows) (c : Fin m.ncols) : α := (m.rows.get ⟨r.1, r.2⟩)[c]

/-- Lists of entries as rows of width `ncols`; a short list is filled up with zeros. -/
def ofLists [OfNat α 0] (ncols : Nat) (rows : List (List α)) : Matrix α :=
  ⟨ncols, rows.map fun row => Vector.ofFn fun c : Fin ncols => row.getD c 0⟩

def toLists (m : Matrix α) : List (List α) := m.rows.map (·.toList)

@[simp] theorem length_toLists (m : Matrix α) : m.toLists.length = m.nrows := by
  simp [toLists, nrows]

def zeros [OfNat α 0] (nrows ncols : Nat) : Matrix α := ofFn nrows ncols fun _ _ => 0

/-- A square matrix with the given diagonal and zeros elsewhere. -/
def diagonal [OfNat α 0] (ds : List α) : Matrix α :=
  ofFn ds.length ds.length fun r c => if r = c then ds[r] else 0

def identity [OfNat α 0] [OfNat α 1] (n : Nat) : Matrix α :=
  ofFn n n fun r c => if r = c then 1 else 0

@[simp] theorem nrows_identity [OfNat α 0] [OfNat α 1] (n : Nat) :
    (identity n : Matrix α).nrows = n := nrows_ofFn n n _

def map (f : α → β) (m : Matrix α) : Matrix β := ⟨m.ncols, m.rows.map (·.map f)⟩

@[simp] theorem nrows_map (f : α → β) (m : Matrix α) : (m.map f).nrows = m.nrows := by
  simp [nrows, map]

/-- The entries of column `c` from top to bottom. -/
def column (m : Matrix α) (c : Fin m.ncols) : List α := m.rows.map (·[c])

@[simp] theorem length_column (m : Matrix α) (c : Fin m.ncols) :
    (m.column c).length = m.nrows := by
  simp [column, nrows]

def transpose (m : Matrix α) : Matrix α :=
  ⟨m.nrows, (List.finRange m.ncols).map fun c =>
    ⟨(m.column c).toArray, by simp⟩⟩

/-- The same matrix with one entry replaced; a place outside of it changes nothing. -/
def set (m : Matrix α) (r c : Nat) (v : α) : Matrix α :=
  ⟨m.ncols, m.rows.modify r fun row => row.setIfInBounds c v⟩

/-- Same shape and entry by entry equal as numbers, so a zero equals a negative zero and a value
that is no number equals nothing. -/
def sameValues [BEq α] (a b : Matrix α) : Bool :=
  a.ncols == b.ncols && a.toLists == b.toLists

end Matrix

end QuadOpt
