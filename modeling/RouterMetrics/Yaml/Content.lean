import RouterMetrics.Yaml.Node
import RouterMetrics.Text.Digit

/-!
What the nodes of a YAML document stand for, when a reader expects a text, a truth value, a number,
a list or a mapping. Only plain scalars are more than texts; a block scalar may be one by its tag.
A scalar that is not written is an empty list and an empty mapping too.

A reader follows aliases, but only so many: a small document must not stand for a huge one.
-/

namespace RouterMetrics.Yaml

/-- A reading of a document, which fails or gives a value. It knows what the numbers of the anchors
stand for, and its state is how many more aliases may be followed. -/
abbrev Reading := ReaderT (Array Node) (StateT Nat Option)

/-- How many aliases may be followed for each event of a document. -/
def aliasesPerEvent : Nat := 100

/-- What a reading of a document gives. -/
def Reading.run? {α : Type} (r : Reading α) (document : Node) : Option α :=
  ((ReaderT.run r document.anchorTable).run (aliasesPerEvent * document.events)).map (·.1)

/-- A reading that gives a value if there is one. -/
def Reading.ofOption {α : Type} : Option α → Reading α
  | some a => pure a
  | none => failure

namespace Node

/-- What a node stands for: itself without its anchor, or what an alias names. -/
def follow : Node → Reading Node
  | .anchored _ node => pure node
  | .alias number => do
    match ← get with
    | 0 => failure
    | left + 1 =>
      set left
      return (← read).getD number nothing
  | node => pure node

/-- The text of a scalar, however it is written. -/
def text (n : Node) : Reading String := do
  match ← n.follow with
  | .scalar _ _ text => return String.ofList text
  | _ => failure

/-- The tag of a name that the language knows. -/
def languageTag (name : String) : List Char := ("tag:yaml.org,2002:" ++ name).toList

/-- The text of a scalar that may stand for a value of a kind: a plain one, or a literal one with
the kind's tag. -/
def literal (kind : String) (n : Node) : Reading (List Char) := do
  match ← n.follow with
  | .scalar .plain _ text => return text
  | .scalar .literal tag text => if tag == some (languageTag kind) then return text else failure
  | _ => failure

/-- The truth value that a text stands for. -/
def flagOf? (text : List Char) : Option Bool :=
  let text := String.ofList text
  if ["true", "True", "TRUE"].contains text then some true
  else if ["false", "False", "FALSE"].contains text then some false
  else none

/-- A truth value. -/
def flag (n : Node) : Reading Bool := do .ofOption (flagOf? (← literal "bool" n))

/-- The number that digits of a base write, `none` without digits. -/
def digitsIn? (base : Nat) (cs : List Char) : Option Nat :=
  if cs.isEmpty then none
  else cs.foldlM (fun n c =>
    (Text.hexValue? c).bind fun d => if d < base then some (base * n + d) else none) 0

/-- A whole number without a minus sign: in base ten without leading zeros, or in base sixteen,
eight or two behind their marks. -/
def unsignedOf? (text : List Char) : Option Nat :=
  let cs := if text.head? == some '+' then text.tail else text
  match cs with
  | '0' :: 'x' :: digits => digitsIn? 16 digits
  | '0' :: 'o' :: digits => digitsIn? 8 digits
  | '0' :: 'b' :: digits => digitsIn? 2 digits
  | '0' :: _ :: _ => none
  | digits => digitsIn? 10 digits

/-- A whole number from zero to below a limit. -/
def unsigned (limit : Nat) (n : Node) : Reading Nat := do
  .ofOption ((unsignedOf? (← literal "int" n)).filter (· < limit))

/-- A text that stands for no value. -/
def isNullWord (text : List Char) : Bool :=
  ["null", "Null", "NULL", "~"].contains (String.ofList text)

/-- A value that may be left out. The tag of no value admits only the words for it, and any other
tag only values. -/
def optional {α : Type} (value : Node → Reading α) (n : Node) : Reading (Option α) := do
  let n ← n.follow
  match n with
  | .scalar .plain none text =>
    if text.isEmpty || isNullWord text then return none else some <$> value n
  | .scalar .plain (some tag) text =>
    if tag == languageTag "null" then
      if isNullWord text then return none else failure
    else some <$> value n
  | _ => some <$> value n

/-- The items of a list. -/
def items (n : Node) : Reading (List Node) := do
  match ← n.follow with
  | .list items => return items
  | .scalar .plain _ [] => return []
  | _ => failure

/-- The entries of a mapping whose keys are all scalars. -/
def members (n : Node) : Reading (List (String × Node)) := do
  match ← n.follow with
  | .mapping entries => entries.mapM fun e => return (← e.1.text, e.2)
  | .scalar .plain _ [] => return []
  | _ => failure

/-- A list of texts. -/
def texts (n : Node) : Reading (List String) := do (← n.items).mapM text

/-- The entries of a mapping with known keys, each at most once. Others are passed over. -/
def known (keys : List String) (n : Node) : Reading (List (String × Node)) := do
  let members := (← n.members).filter fun m => keys.contains m.1
  if (members.map (·.1)).Nodup then return members else failure

end Node

end RouterMetrics.Yaml
