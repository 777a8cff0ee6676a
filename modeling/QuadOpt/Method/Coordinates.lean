/-!
# Vectors of doubles

The few operations that the numerical methods need, on lists of coordinates.
-/

namespace QuadOpt.Coordinates

def dot (a b : List Float) : Float := (a.zip b).foldl (fun acc (x, y) => acc + x * y) 0

def add (a b : List Float) : List Float := a.zipWith (· + ·) b

def sub (a b : List Float) : List Float := a.zipWith (· - ·) b

def scale (t : Float) (a : List Float) : List Float := a.map (t * ·)

/-- The point reached from `a` by going `t` times along `d`. -/
def along (a : List Float) (t : Float) (d : List Float) : List Float := add a (scale t d)

def maxNorm (a : List Float) : Float := a.foldl (fun acc v => if acc < v.abs then v.abs else acc) 0

/-- The combination of the vectors `vs`, all of length `n`, with the given weights. -/
def combine (n : Nat) (weights : List Float) (vs : List (List Float)) : List Float :=
  (weights.zip vs).foldl (fun acc (w, v) => along acc w v) (List.replicate n 0)

end QuadOpt.Coordinates
