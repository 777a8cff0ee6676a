import QuadOpt.Config.Section
import QuadOpt.Number.Notation

/-!
# Writing configurations

Both formats write every setting, in order. They differ in how they write numbers: one has words for
infinities, the other has `null` for all that is no number, and exponents for what is large or small.
-/

namespace QuadOpt.Config

/-- Numbers in TOML: in full, always with a point. -/
def tomlNumber : Notation where
  positional := Notation.always
  pointZero := true
  nan := "nan"
  infinity := Notation.signedInf

/-- Numbers in JSON: with an exponent unless the leading digit is near the point. -/
def jsonNumber : Notation where
  positional e := -5 ≤ e && e ≤ 15
  pointZero := true
  nan := "null"
  infinity _ := "null"

def Scalar.text (number : Notation) : Scalar → String
  | .bool b => toString b
  | .nat n => toString n
  | .float x => number.text x

/-- A string between double quotes. Names have no characters that would need an escape. -/
def quotedName (s : String) : String := "\"" ++ s ++ "\""

/-- A blank line, the header, and a line for each setting. -/
def Section.tomlLines (s : Section) : List String :=
  ["", "[" ++ s.name ++ "]"] ++ s.settings.map fun (k, v) => k ++ " = " ++ v.text tomlNumber

def tomlLines (c : Config) : List String :=
  ("backend = " ++ quotedName c.backend.name) :: c.sections.flatMap Section.tomlLines

/-- The text from which `ofToml` reads the configuration back. -/
def toToml (c : Config) : String := String.join (c.tomlLines.map (· ++ "\n"))

def jsonTable (entries : List (String × String)) : String :=
  "\x7b" ++ ",".intercalate (entries.map fun (k, v) => quotedName k ++ ":" ++ v) ++ "\x7d"

def Section.json (s : Section) : String :=
  jsonTable (s.settings.map fun (k, v) => (k, v.text jsonNumber))

/-- The text from which `ofJson` reads the configuration back, if all its numbers are finite. -/
def toJson (c : Config) : String :=
  jsonTable (("backend", quotedName c.backend.name) :: c.sections.map fun s => (s.name, s.json))

end QuadOpt.Config
