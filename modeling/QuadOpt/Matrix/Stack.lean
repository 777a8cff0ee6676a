import QuadOpt.Matrix

/-!
# Stacking and flat storage

Matrices of one width stacked on top of each other, and the two orders in which the entries of a
matrix are written out as one list.
-/

namespace QuadOpt.Matrix

variable {α : Type}

abbrev Block (α : Type) (n : Nat) := { m : Matrix α // m.ncols = n }

/-- The rows of a block, at their known width. -/
def Block.rows {n : Nat} (b : Block α n) : List (Vector α n) := b.1.rows.map (·.cast b.2)

@[simp] theorem Block.length_rows {n : Nat} (b : Block α n) : b.rows.length = b.1.nrows := by
  simp [Block.rows, nrows]

def vstack {n : Nat} (blocks : List (Block α n)) : Matrix α := ⟨n, blocks.flatMap Block.rows⟩

@[simp] theorem ncols_vstack {n : Nat} (blocks : List (Block α n)) : (vstack blocks).ncols = n :=
  rfl

@[simp] theorem nrows_vstack_nil {n : Nat} : (vstack ([] : List (Block α n))).nrows = 0 := rfl

@[simp] theorem nrows_vstack_cons {n : Nat} (b : Block α n) (blocks : List (Block α n)) :
    (vstack (b :: blocks)).nrows = b.1.nrows + (vstack blocks).nrows := by
  simp [vstack, nrows, Block.rows]

@[simp] theorem toLists_vstack_nil {n : Nat} :
    (vstack ([] : List (Block α n))).toLists = [] := rfl

@[simp] theorem toLists_vstack_cons {n : Nat} (b : Block α n) (blocks : List (Block α n)) :
    (vstack (b :: blocks)).toLists = b.1.toLists ++ (vstack blocks).toLists := by
  simp [vstack, toLists, Block.rows, Function.comp_def, Vector.toList_cast]

def rowMajor (m : Matrix α) : List α := m.rows.flatMap (·.toList)

def columnMajor (m : Matrix α) : List α := m.transpose.rowMajor

end QuadOpt.Matrix
