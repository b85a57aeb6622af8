import RouterMetrics.Dict

/-!
References to environment variables inside a text: `${NAME}` and `${NAME:-default}`.

A reference is replaced by the variable's value, also an empty one, and by its default when the
variable is not set. What is put in is not looked at again, and a text that is no reference stays
as it is.
-/

namespace RouterMetrics.Config

/-- The environment variables that are set. -/
abbrev Environment := Dict String

/-- The first character of a variable's name. -/
def isNameStart (c : Char) : Bool := c.isAlpha || c == '_'

/-- A later character of a variable's name. -/
def isNameChar (c : Char) : Bool := c.isAlphanum || c == '_'

/-- A reference: the variable's name and the default, empty when none is written. -/
structure Reference where
  name : List Char
  fallback : List Char
deriving Repr, DecidableEq

/-- A variable's name at the head of a text. -/
def readName : List Char → Option (List Char × List Char)
  | [] => none
  | c :: cs =>
    if isNameStart c then some (c :: cs.takeWhile isNameChar, cs.dropWhile isNameChar) else none

/-- What follows a reference's name: the closing brace, with a default before it or not. -/
def readFallback : List Char → Option (List Char × List Char)
  | '\x7d' :: rest => some ([], rest)
  | ':' :: '-' :: cs =>
    match cs.dropWhile (· != '\x7d') with
    | [] => none
    | _ :: rest => some (cs.takeWhile (· != '\x7d'), rest)
  | _ => none

/-- A reference at the head of a text. -/
def readReference : List Char → Option (Reference × List Char)
  | '$' :: '\x7b' :: cs => do
    let (name, cs) ← readName cs
    let (fallback, rest) ← readFallback cs
    some (⟨name, fallback⟩, rest)
  | _ => none

/-- The text that a reference stands for. -/
def Reference.value (env : Environment) (r : Reference) : List Char :=
  match env.get? (String.ofList r.name) with
  | some v => v.toList
  | none => r.fallback

/-- The text with its references replaced, from left to right. Each step takes a character at
least, so as many steps as characters suffice. -/
def expandChars (env : Environment) : Nat → List Char → List Char
  | 0, cs => cs
  | _, [] => []
  | fuel + 1, c :: cs =>
    match readReference (c :: cs) with
    | some (r, rest) => r.value env ++ expandChars env fuel rest
    | none => c :: expandChars env fuel cs

/-- `expandChars` on strings. -/
def expand (env : Environment) (text : String) : String :=
  String.ofList (expandChars env text.toList.length text.toList)

end RouterMetrics.Config
