import RouterMetrics.Dict
import RouterMetrics.Decimal.Layout

/-!
JSON values as a device answers them.

A number is a whole number when it was written without point and exponent and fits a signed or
unsigned word of 64 bits; any other number is a double. The members of an object are kept in the
order of their names.
-/

namespace RouterMetrics

/-- A JSON value. The members of an object are ordered by name, each name once. -/
inductive Json
  | null
  | bool (b : Bool)
  | int (i : Int)
  | float (x : Float)
  | text (s : String)
  | list (items : List Json)
  | object (members : List (String × Json))
deriving Inhabited

namespace Json

/-- The object with the members of a list, a later member in place of an earlier one of its name. -/
def ofMembers (l : List (String × Json)) : Json :=
  .object (l.foldl (fun acc m => Assoc.put m.1 m.2 acc) [])

/-- A member of an object, absent for any other value. -/
def member? (name : String) : Json → Option Json
  | .object members => Assoc.find? name members
  | _ => none

/-- The text of a text value. -/
def asText? : Json → Option String
  | .text s => some s
  | _ => none

/-- A lower-case hexadecimal digit. -/
def hexDigit (n : Nat) : Char := (Nat.digitChar n)

/-- A character inside a quoted text. Quote, backslash and the controls are escaped, everything
else stands for itself. -/
def quoteChar (c : Char) : List Char :=
  if c = '"' then ['\\', '"']
  else if c = '\\' then ['\\', '\\']
  else if c.toNat = 8 then ['\\', 'b']
  else if c.toNat = 12 then ['\\', 'f']
  else if c = '\n' then ['\\', 'n']
  else if c = '\r' then ['\\', 'r']
  else if c = '\t' then ['\\', 't']
  else if c.toNat < 32 then
    ['\\', 'u', '0', '0', hexDigit (c.toNat / 16), hexDigit (c.toNat % 16)]
  else [c]

/-- A text between quotes. -/
def quote (s : String) : List Char := '"' :: s.toList.flatMap quoteChar ++ ['"']

/-- A whole number in base ten. -/
def intChars (i : Int) : List Char :=
  if i < 0 then '-' :: Text.digits i.natAbs else Text.digits i.natAbs

mutual

/-- The compact written form: no white space, members in their order. A number that is not finite
is written `null`. -/
def write : Json → List Char
  | .null => "null".toList
  | .bool true => "true".toList
  | .bool false => "false".toList
  | .int i => intChars i
  | .float x => (Decimal.scientific x).getD "null".toList
  | .text s => quote s
  | .list items => '[' :: writeItems items ++ [']']
  | .object members => '\x7b' :: writeMembers members ++ ['\x7d']

/-- Items with commas between them. -/
def writeItems : List Json → List Char
  | [] => []
  | [v] => write v
  | v :: rest => write v ++ ',' :: writeItems rest

/-- Members with commas between them. -/
def writeMembers : List (String × Json) → List Char
  | [] => []
  | [(k, v)] => quote k ++ ':' :: write v
  | (k, v) :: rest => quote k ++ ':' :: write v ++ ',' :: writeMembers rest

end

/-- The compact written form as a string. -/
def compact (j : Json) : String := String.ofList j.write

end Json

end RouterMetrics
