import QuadOpt.Dims
import QuadOpt.Json.Variant
import QuadOpt.Kind
import QuadOpt.Solve.WarmStart

/-!
# Kinds, starts and dimensions in JSON
-/

namespace QuadOpt

open Document

def Kind.ofJson : String → Decoded Kind := Json.decodeText (Json.decodeVariant Kind.all Kind.name)

/-- A name between quotes. No name has a character that would need an escape. -/
def Kind.toJson (k : Kind) : String := "\"" ++ k.name ++ "\""

def StartState.ofJson : String → Decoded StartState :=
  Json.decodeText (Json.decodeVariant StartState.all StartState.name)

namespace Dims

def countSetter (name : String) (put : Nat → Dims → Dims) : Setter Dims :=
  ⟨name, fun t d => (decodeNat wordLimit .word64 t).map (put · d)⟩

def setters : List (Setter Dims) :=
  [countSetter "dim_var" fun n d => { d with var := n },
    countSetter "dim_eq" fun n d => { d with eq := n },
    countSetter "dim_ineq" fun n d => { d with ineq := n }]

def title : String := "QpDims"

def ofJson : String → Decoded Dims :=
  Json.decodeText (decodeFull Json.dialect title setters default)

def toJson (d : Dims) : String :=
  "\x7b" ++ ",".intercalate (d.fields.map fun (k, n) => "\"" ++ k ++ "\":" ++ toString n) ++ "\x7d"

end Dims

end QuadOpt
