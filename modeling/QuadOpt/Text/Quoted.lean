import QuadOpt.Text.Printable

/-!
# Quoted text in messages

A string between double quotes. Quotes and backslashes are escaped, and so is every character that
would not show, or would join the one before it.
-/

namespace QuadOpt.Text

def hex (n : Nat) : String := String.ofList (Nat.toDigits 16 n)

def quotedChar (c : Char) : String :=
  if c = '"' then "\\\""
  else if c = '\\' then "\\\\"
  else if c = '\n' then "\\n"
  else if c = '\r' then "\\r"
  else if c = '\t' then "\\t"
  else if c.toNat = 0 then "\\0"
  else if isPlain c then String.singleton c
  else "\\u\x7b" ++ hex c.toNat ++ "\x7d"

def quoted (s : String) : String := "\"" ++ String.join (s.toList.map quotedChar) ++ "\""

end QuadOpt.Text
