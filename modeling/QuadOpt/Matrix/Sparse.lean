import QuadOpt.Matrix

/-!
# Compressed columns

The nonzero entries of a matrix, column by column, each with its row. Only an exact zero is dropped;
a value that is no number differs from zero and is kept.
-/

namespace QuadOpt

inductive Triangle where
  | full
  /-- Entries with row at most column. -/
  | upper
  deriving DecidableEq, Repr

/-- Whether row `r` of column `c` belongs to the part. -/
def Triangle.covers : Triangle → (r c : Nat) → Bool
  | .full, _, _ => true
  | .upper, r, c => r ≤ c

/-- Compressed sparse columns: column `c` holds the entries from `colptr[c]` up to `colptr[c+1]`. -/
structure Csc (α : Type) where
  nrows : Nat
  ncols : Nat
  colptr : List Nat
  rowval : List Nat
  nzval : List α
  deriving DecidableEq, Repr

namespace Csc

variable {α : Type}

def empty : Csc α := ⟨0, 0, [], [], []⟩

/-- Where each column begins when the columns before it have the given sizes, counted from `start`;
last comes the end of the last column. -/
def offsets (start : Nat) : List Nat → List Nat
  | [] => [start]
  | n :: ns => start :: offsets (start + n) ns

theorem length_offsets (start : Nat) (ns : List Nat) :
    (offsets start ns).length = ns.length + 1 := by
  induction ns generalizing start with
  | nil => rfl
  | cons n ns ih => simp [offsets, ih]

/-- The entries of column `c` that are stored, each with its row. -/
def storedColumn [BEq α] [OfNat α 0] (t : Triangle) (m : Matrix α) (c : Fin m.ncols) :
    List (Nat × α) :=
  (m.column c).zipIdx.filterMap fun (v, r) => if t.covers r c && v != 0 then some (r, v) else none

def storedColumns [BEq α] [OfNat α 0] (t : Triangle) (m : Matrix α) : List (List (Nat × α)) :=
  (List.finRange m.ncols).map (storedColumn t m)

def ofMatrix [BEq α] [OfNat α 0] (t : Triangle) (m : Matrix α) : Csc α :=
  let columns := storedColumns t m
  { nrows := m.nrows
    ncols := m.ncols
    colptr := offsets 0 (columns.map (·.length))
    rowval := columns.flatMap (·.map (·.1))
    nzval := columns.flatMap (·.map (·.2)) }

def nnz (s : Csc α) : Nat := s.nzval.length

/-- Same shape and same stored positions, whatever the values. -/
def samePattern (a b : Csc α) : Bool :=
  a.nrows == b.nrows && a.ncols == b.ncols && a.colptr == b.colptr && a.rowval == b.rowval

def sameValues [BEq α] (a b : Csc α) : Bool := a.samePattern b && a.nzval == b.nzval

/-- The stored entries as row, column and value, in storage order. -/
def triples (s : Csc α) : List (Nat × Nat × α) :=
  let spans := (s.colptr.zip s.colptr.tail).zipIdx
  spans.flatMap fun ((start, stop), c) =>
    (((s.rowval.zip s.nzval).take stop).drop start).map fun (r, v) => (r, c, v)

end Csc

end QuadOpt
