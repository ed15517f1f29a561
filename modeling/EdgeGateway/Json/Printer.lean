import EdgeGateway.Json.Basic
import EdgeGateway.Double.Text

/-!
# Compact JSON text

No blanks, members in the order of the object, and only the quote, the backslash and the control
characters below U+0020 escaped.
-/

namespace EdgeGateway.Json

def hexDigit (n : Nat) : Char := (Nat.toDigits 16 n).headD '0'

def escape (c : Char) : List Char :=
  if c = '"' then ['\\', '"']
  else if c = '\\' then ['\\', '\\']
  else if 0x20 ≤ c.toNat then [c]
  else if c.toNat = 0x08 then ['\\', 'b']
  else if c = '\t' then ['\\', 't']
  else if c = '\n' then ['\\', 'n']
  else if c.toNat = 0x0c then ['\\', 'f']
  else if c = '\r' then ['\\', 'r']
  else ['\\', 'u', '0', '0', hexDigit (c.toNat / 16), hexDigit (c.toNat % 16)]

def quote (s : String) : String :=
  (s.toList.foldl (fun out c => (escape c).foldl String.push out) "\"").push '"'

def Number.text : Number → String
  | .int i => toString i
  | .double d => d.jsonText

mutual

def write (out : String) : Json → String
  | .null => out ++ "null"
  | .bool b => out ++ (if b then "true" else "false")
  | .number n => out ++ n.text
  | .string s => out ++ quote s
  | .array [] => out ++ "[]"
  | .array (item :: items) => writeItems (write (out ++ "[") item) items ++ "]"
  | .object [] => out ++ "\x7b\x7d"
  | .object ((name, value) :: members) =>
    writeMembers (write (out ++ "\x7b" ++ quote name ++ ":") value) members ++ "\x7d"

def writeItems (out : String) : List Json → String
  | [] => out
  | item :: items => writeItems (write (out ++ ",") item) items

def writeMembers (out : String) : List (String × Json) → String
  | [] => out
  | (name, value) :: members => writeMembers (write (out ++ "," ++ quote name ++ ":") value) members

end

def text (j : Json) : String := write "" j

end EdgeGateway.Json
