import RouterMetrics.Yaml.Token

/-!
The nodes of a YAML document: scalars, lists and mappings, composed from its tokens.

A stream holds one document or nothing. Scalars keep their text and the way they are written; what
a text stands for is up to its reader. A node may be anchored, and an alias stands for an anchored
node; it is looked up only when it is read, so a node may hold an alias of itself.
-/

namespace RouterMetrics.Yaml

/-- A node of a document. Anchors go by numbers. -/
inductive Node
  | scalar (style : Style) (tag : Option (List Char)) (text : List Char)
  | list (items : List Node)
  | mapping (entries : List (Node × Node))
  | anchored (number : Nat) (node : Node)
  | alias (number : Nat)
deriving Repr, Inhabited

namespace Node

/-- A node that is not written. -/
def nothing : Node := .scalar .plain none []

/-! ## Aliases -/

mutual

/-- The anchored nodes within a node with their numbers, in the order in which they start, followed
by others. -/
def anchors : Node → List (Nat × Node) → List (Nat × Node)
  | .scalar _ _ _, after => after
  | .alias _, after => after
  | .list items, after => anchorsOfItems items after
  | .mapping entries, after => anchorsOfEntries entries after
  | .anchored number node, after => (number, node) :: anchors node after

/-- `anchors` of all nodes of a list. -/
def anchorsOfItems : List Node → List (Nat × Node) → List (Nat × Node)
  | [], after => after
  | node :: rest, after => anchors node (anchorsOfItems rest after)

/-- `anchors` of all keys and values of a mapping. -/
def anchorsOfEntries : List (Node × Node) → List (Nat × Node) → List (Nat × Node)
  | [], after => after
  | (key, value) :: rest, after => anchors key (anchors value (anchorsOfEntries rest after))

end

/-- What the numbers of a document's anchors stand for. Of several nodes with one number it is the
last; a number is less than there are anchored nodes. -/
def anchorTable (document : Node) : Array Node :=
  let anchored := document.anchors []
  anchored.foldl (fun table a => table.setIfInBounds a.1 a.2)
    (Array.replicate anchored.length nothing)

/-! ## Size -/

mutual

/-- How many events a document is made of: one for a scalar or an alias, and two around the items
of a list or a mapping. -/
def events : Node → Nat
  | .scalar _ _ _ => 1
  | .alias _ => 1
  | .list items => 2 + eventsOfItems items
  | .mapping entries => 2 + eventsOfEntries entries
  | .anchored _ node => events node

/-- `events` of all nodes of a list. -/
def eventsOfItems : List Node → Nat
  | [] => 0
  | node :: rest => events node + eventsOfItems rest

/-- `events` of all keys and values of a mapping. -/
def eventsOfEntries : List (Node × Node) → Nat
  | [] => 0
  | (key, value) :: rest => events key + events value + eventsOfEntries rest

end

end Node

/-! ## Composition -/

/-- The state between two nodes: the tokens that are left, the meanings of tag handles, and the
numbers of the anchors. An anchor is numbered by how many names are bound before it. -/
structure Composer where
  tokens : List Token
  handles : List (List Char × List Char)
  anchors : List (List Char × Nat)

namespace Composer

/-- The state after the next token. -/
def drop (c : Composer) : Composer := { c with tokens := c.tokens.tail }

/-- The next token is of a class. At the end of the tokens it is of none. -/
def isNext (c : Composer) (p : Token → Bool) : Bool := (c.tokens.head?.map p).getD false

/-- The tag that a handle and a suffix write. -/
def tagOf? (c : Composer) (handle suffix : List Char) : Option (List Char) :=
  if handle.isEmpty then some suffix else (c.handles.lookup handle).map (· ++ suffix)

/-- The anchor's name and the tag before a node, in either order. -/
def properties (c : Composer) : Option ((Option (List Char) × Option (List Char)) × Composer) :=
  match c.tokens with
  | .anchor name :: .tag handle suffix :: rest => do
    some ((some name, some (← c.tagOf? handle suffix)), { c with tokens := rest })
  | .tag handle suffix :: .anchor name :: rest => do
    some ((some name, some (← c.tagOf? handle suffix)), { c with tokens := rest })
  | .anchor name :: rest => some ((some name, none), { c with tokens := rest })
  | .tag handle suffix :: rest => do
    some ((none, some (← c.tagOf? handle suffix)), { c with tokens := rest })
  | _ => some ((none, none), c)

/-- Binds a name to the next number. -/
def bind (c : Composer) (name : List Char) : Composer :=
  { c with anchors := (name, c.anchors.length) :: c.anchors.filter (·.1 != name) }

mutual

/-- A node. Block collections and lists without indentation are read only where they may stand.
Every step takes a token or is followed by one that does. -/
def node (block indentless : Bool) : Nat → Composer → Option (Node × Composer)
  | 0, _ => none
  | fuel + 1, c =>
    match c.tokens with
    | .alias name :: _ => (c.anchors.lookup name).map fun n => (.alias n, c.drop)
    | _ => do
      let ((anchor, tag), c) ← c.properties
      match anchor with
      | none => content block indentless tag false fuel c
      | some name =>
        let (node, after) ← content block indentless tag true fuel (c.bind name)
        some (.anchored c.anchors.length node, after)

/-- A node after its anchor and tag. Only one that has either may be left out. -/
def content (block indentless : Bool) (tag : Option (List Char)) (anchored : Bool) :
    Nat → Composer → Option (Node × Composer)
  | 0, _ => none
  | fuel + 1, c =>
    match c.tokens with
    | .scalar style text :: _ => some (.scalar style tag text, c.drop)
    | .flowSequence :: _ => (flowItems true fuel c.drop).map fun (l, c) => (.list l, c)
    | .flowMapping :: _ => (flowEntries true fuel c.drop).map fun (l, c) => (.mapping l, c)
    | t :: _ =>
      if indentless && t == .blockEntry then
        (indentlessItems fuel c).map fun (l, c) => (.list l, c)
      else if block && t == .blockSequence then
        (blockItems fuel c.drop).map fun (l, c) => (.list l, c)
      else if block && t == .blockMapping then
        (blockEntries fuel c.drop).map fun (l, c) => (.mapping l, c)
      else if anchored || tag.isSome then some (.scalar .plain tag [], c)
      else none
    | [] => if anchored || tag.isSome then some (.scalar .plain tag [], c) else none

/-- A node, or nothing where a token stands that ends its place. -/
def slot (block indentless : Bool) (ends : Token → Bool) :
    Nat → Composer → Option (Node × Composer)
  | 0, _ => none
  | fuel + 1, c =>
    if c.isNext ends then some (.nothing, c) else node block indentless fuel c

/-- The items of a block list up to its end. -/
def blockItems : Nat → Composer → Option (List Node × Composer)
  | 0, _ => none
  | fuel + 1, c =>
    match c.tokens with
    | .blockEntry :: _ => do
      let (item, c) ← slot true false (fun t => t == .blockEntry || t == .blockEnd) fuel c.drop
      let (items, c) ← blockItems fuel c
      some (item :: items, c)
    | .blockEnd :: _ => some ([], c.drop)
    | _ => none

/-- The items of a block list that is not indented below its key. -/
def indentlessItems : Nat → Composer → Option (List Node × Composer)
  | 0, _ => none
  | fuel + 1, c =>
    match c.tokens with
    | .blockEntry :: _ => do
      let ends t := t == .blockEntry || t == .key || t == .value || t == .blockEnd
      let (item, c) ← slot true false ends fuel c.drop
      let (items, c) ← indentlessItems fuel c
      some (item :: items, c)
    | _ => some ([], c)

/-- The entries of a block mapping up to its end. -/
def blockEntries : Nat → Composer → Option (List (Node × Node) × Composer)
  | 0, _ => none
  | fuel + 1, c =>
    match c.tokens with
    | .key :: _ => do
      let ends t := t == .key || t == .value || t == .blockEnd
      let (key, c) ← slot true true ends fuel c.drop
      let (value, c) ←
        if c.isNext (· == .value) then slot true true ends fuel c.drop else some (.nothing, c)
      let (entries, c) ← blockEntries fuel c
      some ((key, value) :: entries, c)
    | .blockEnd :: _ => some ([], c.drop)
    | _ => none

/-- The items of a flow list up to its end. An item with a key is a mapping of one entry; a key
that is left out takes the token after it along. -/
def flowItems (first : Bool) : Nat → Composer → Option (List Node × Composer)
  | 0, _ => none
  | fuel + 1, c =>
    if c.isNext (· == .flowSequenceEnd) then some ([], c.drop)
    else if !first && !c.isNext (· == .flowEntry) then none
    else
      let c := if first then c else c.drop
      let ends t := t == .flowEntry || t == .flowSequenceEnd
      match c.tokens with
      | .flowSequenceEnd :: _ => some ([], c.drop)
      | .key :: _ => do
        let c := c.drop
        let (key, c) ←
          if c.isNext fun t => t == .value || ends t then some (Node.nothing, c.drop)
          else node false false fuel c
        let (value, c) ←
          if c.isNext (· == .value) then slot false false ends fuel c.drop
          else some (.nothing, c)
        let (items, c) ← flowItems false fuel c
        some (.mapping [(key, value)] :: items, c)
      | _ => do
        let (item, c) ← node false false fuel c
        let (items, c) ← flowItems false fuel c
        some (item :: items, c)

/-- The entries of a flow mapping up to its end. -/
def flowEntries (first : Bool) : Nat → Composer → Option (List (Node × Node) × Composer)
  | 0, _ => none
  | fuel + 1, c =>
    if c.isNext (· == .flowMappingEnd) then some ([], c.drop)
    else if !first && !c.isNext (· == .flowEntry) then none
    else
      let c := if first then c else c.drop
      let ends t := t == .flowEntry || t == .flowMappingEnd
      match c.tokens with
      | .flowMappingEnd :: _ => some ([], c.drop)
      | .key :: _ => do
        let (key, c) ← slot false false (fun t => t == .value || ends t) fuel c.drop
        let (value, c) ←
          if c.isNext (· == .value) then slot false false ends fuel c.drop
          else some (.nothing, c)
        let (entries, c) ← flowEntries false fuel c
        some ((key, value) :: entries, c)
      | _ => do
        let (key, c) ← node false false fuel c
        let (entries, c) ← flowEntries false fuel c
        some ((key, .nothing) :: entries, c)

end

end Composer

/-! ## Documents -/

/-- The handles that need no directive. -/
def standardHandles : List (List Char × List Char) :=
  [(['!'], ['!']), (['!', '!'], "tag:yaml.org,2002:".toList)]

/-- The handles that directives give meaning to, and what follows the directives. Each handle and
the version may be given once. -/
def directives (versionSeen : Bool) (handles : List (List Char × List Char)) :
    List Token → Option (List (List Char × List Char) × List Token)
  | .version major minor :: rest =>
    if versionSeen || major != 1 || (minor != 1 && minor != 2) then none
    else directives true handles rest
  | .tagHandle handle leader :: rest =>
    if (handles.lookup handle).isSome then none
    else directives versionSeen ((handle, leader) :: handles) rest
  | rest => some (handles, rest)

/-- The node of a document after its start. -/
def documentNode (explicit : Bool) (handles : List (List Char × List Char)) (tokens : List Token) :
    Option (Node × List Token) :=
  let ends : Token → Bool
    | .documentStart => true
    | .documentEnd => true
    | .version _ _ => true
    | .tagHandle _ _ => true
    | _ => false
  if explicit && (tokens.head?.map ends).getD true then some (.nothing, tokens)
  else
    (Composer.node true false (4 * tokens.length + 4) ⟨tokens, handles, []⟩).map
      fun (node, c) => (node, c.tokens)

/-- Nothing but ends of documents. -/
def onlyEnds (tokens : List Token) : Bool := tokens.all (· == .documentEnd)

/-- The document of a text, which may be missing. The outer `none` is a text that is no stream of
at most one document. -/
def document? (text : String) : Option (Option Node) := do
  let tokens ← tokens? text.toList
  if tokens.isEmpty then some none
  else
    let (handles, rest) ← directives false [] tokens
    let handles := handles ++ standardHandles
    let (node, rest) ←
      match rest with
      | .documentStart :: more => documentNode true handles more
      | rest => if rest.length == tokens.length then documentNode false handles rest else none
    if onlyEnds rest then some (some node) else none

end RouterMetrics.Yaml
