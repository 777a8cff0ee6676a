import QuadOpt.Config.Decode
import QuadOpt.Json.Variant

/-!
# Configurations in JSON
-/

namespace QuadOpt.Config

open Document

def kindOfJson : Tree → Decoded Kind := Json.decodeVariant Kind.all Kind.name

def ofJson : String → Decoded Config := Json.decodeText (ofTree Json.dialect kindOfJson)

end QuadOpt.Config
