import DocBridge.Yaml.Token

/-!
# YAML documents

A document is a tree of nodes.  An alias is a node of its own and refers to an anchored node by a
number, so that a document is finite even where it contains itself.
-/

namespace DocBridge.Yaml

inductive Node where
  | scalar (text : String) (style : ScalarStyle) (tag : Option String)
  | sequence (items : List Node)
  | mapping (entries : List (Node × Node))
  | alias (anchor : Nat)
deriving Repr

def Node.empty : Node := .scalar "" .plain none

/-- A document: its root and its anchored nodes by number. -/
structure Document where
  root : Node
  anchored : List (Nat × Node)
deriving Repr

/-- The node that a node stands for. -/
def Document.resolve? (document : Document) : Node → Option Node
  | .alias anchor => document.anchored.lookup anchor
  | node => some node

/-- The state of composing nodes: the tokens left; the prefixes of tags; the number of each anchor's
name; for each number the anchored node that was begun last; how many of those were begun; and those
that are finished. -/
structure Composer where
  tokens : List Token
  tagHandles : List (String × String) := []
  names : List (String × Nat) := []
  targets : List (Nat × Nat) := []
  begun : Nat := 0
  finished : List (Nat × Node) := []

abbrev Compose := StateT Composer Option

namespace Compose

def peek : Compose (Option Token) := return (← get).tokens.head?

def advance : Compose Unit := modify fun composer => { composer with
  tokens := composer.tokens.tail }

def isNext (tokens : List Token) : Compose Bool := return (← peek).any tokens.contains

/-- Goes past the next token if it is the given one. -/
def accept (token : Token) : Compose Bool := do
  let found ← isNext [token]
  if found then advance
  return found

/-- Goes past the given token; an error if another one is next. -/
def expect (token : Token) : Compose Unit := do
  if !(← accept token) then failure

/-- Begins an anchored node.  Its number is that of names known before; a name that is given anew
loses its old number. -/
def beginAnchor : Option String → Compose Nat
  | none => return 0
  | some name => do
    let composer ← get
    let number := composer.names.length
    set { composer with
      names := (name, number) :: composer.names.filter (·.1 ≠ name)
      targets := (number, composer.begun) :: composer.targets
      begun := composer.begun + 1 }
    return composer.begun

def endAnchor (anchor : Option String) (serial : Nat) (node : Node) : Compose Node := do
  if anchor.isSome then
    modify fun composer => { composer with finished := (serial, node) :: composer.finished }
  return node

/-- The handles that need no directive. -/
def standardHandles : List (String × String) :=
  [("!", "!"), ("!!", "tag:yaml.org,2002:")]

/-- The whole tag of a handle and a suffix. -/
def resolveTag (handle suffix : String) : Compose String := do
  if handle = "" then return suffix
  match ((← get).tagHandles ++ standardHandles).lookup handle with
  | some expansion => return expansion ++ suffix
  | none => failure

def anchor? : Compose (Option String) := do
  match ← peek with
  | some (.anchor name) => advance; return some name
  | _ => return none

def tag? : Compose (Option String) := do
  match ← peek with
  | some (.tag handle suffix) => advance; return some (← resolveTag handle suffix)
  | _ => return none

/-- An anchor and a tag in either order, as far as they are there. -/
def properties : Compose (Option String × Option String) := do
  let before ← anchor?
  let tag ← tag?
  let anchor ← if before.isSome then pure before else anchor?
  return (anchor, tag)

/-- The tag of a scalar.  An exclamation mark alone is none. -/
def scalarTag : Option String → Option String
  | some "!" => none
  | tag => tag

mutual

/-- A node.  Blocks may begin only where `inBlock` says so, and a sequence that is not indented
only where `unindented` does. -/
def node : Nat → Bool → Bool → Compose Node
  | 0, _, _ => failure
  | steps + 1, inBlock, unindented => do
    if let some (.alias name) ← peek then
      advance
      match (← get).names.lookup name with
      | some number => return .alias number
      | none => failure
    let (anchor, tag) ← properties
    let next ← peek
    let serial ← beginAnchor anchor
    let content ← match next with
      | some .blockEntry =>
        if unindented then .sequence <$> unindentedItems steps
        else if anchor.isSome || tag.isSome then pure (.scalar "" .plain (scalarTag tag))
        else failure
      | some (.scalar text style) =>
        advance
        pure (.scalar text style (scalarTag tag))
      | some .flowSequenceStart =>
        advance
        .sequence <$> flowItems steps true
      | some .flowMappingStart =>
        advance
        .mapping <$> flowEntries steps true
      | _ =>
        if inBlock && next = some .blockSequenceStart then
          advance
          .sequence <$> blockItems steps
        else if inBlock && next = some .blockMappingStart then
          advance
          .mapping <$> blockEntries steps
        else if anchor.isSome || tag.isSome then pure (.scalar "" .plain (scalarTag tag))
        else failure
    endAnchor anchor serial content

/-- A node, or the empty one if one of the tokens is next that cannot begin one. -/
def nodeUnless : Nat → List Token → Bool → Bool → Compose Node
  | 0, _, _, _ => failure
  | steps + 1, enders, inBlock, unindented => do
    if ← isNext enders then return .empty else node steps inBlock unindented

def blockItems : Nat → Compose (List Node)
  | 0 => failure
  | steps + 1 => do
    if ← accept .blockEntry then
      let item ← nodeUnless steps [.blockEntry, .blockEnd] true false
      return item :: (← blockItems steps)
    else
      expect .blockEnd
      return []

/-- The items of a sequence that is not indented. -/
def unindentedItems : Nat → Compose (List Node)
  | 0 => failure
  | steps + 1 => do
    if ← accept .blockEntry then
      let item ← nodeUnless steps [.blockEntry, .key, .value, .blockEnd] true false
      return item :: (← unindentedItems steps)
    else return []

def blockEntries : Nat → Compose (List (Node × Node))
  | 0 => failure
  | steps + 1 => do
    if ← accept .key then
      let name ← nodeUnless steps [.key, .value, .blockEnd] true true
      let value ←
        if ← accept .value then nodeUnless steps [.key, .value, .blockEnd] true true
        else pure .empty
      return (name, value) :: (← blockEntries steps)
    else
      expect .blockEnd
      return []

def flowItems : Nat → Bool → Compose (List Node)
  | 0, _ => failure
  | steps + 1, isFirst => do
    if ← accept .flowSequenceEnd then return []
    if !isFirst then expect .flowEntry
    if ← accept .key then
      let pair ← flowPair steps
      return .mapping [pair] :: (← flowItems steps false)
    else if ← accept .flowSequenceEnd then return []
    else
      let item ← node steps false false
      return item :: (← flowItems steps false)

/-- A pair in a flow sequence, from behind the mark of its key.  Where the key is not written, the
token in its place is passed over. -/
def flowPair : Nat → Compose (Node × Node)
  | 0 => failure
  | steps + 1 => do
    let name ←
      if ← isNext [.value, .flowEntry, .flowSequenceEnd] then
        advance
        pure .empty
      else node steps false false
    let value ←
      if ← accept .value then nodeUnless steps [.flowEntry, .flowSequenceEnd] false false
      else pure .empty
    return (name, value)

def flowEntries : Nat → Bool → Compose (List (Node × Node))
  | 0, _ => failure
  | steps + 1, isFirst => do
    if ← accept .flowMappingEnd then return []
    if !isFirst then expect .flowEntry
    if ← accept .key then
      let name ← nodeUnless steps [.value, .flowEntry, .flowMappingEnd] false false
      let value ←
        if ← accept .value then nodeUnless steps [.flowEntry, .flowMappingEnd] false false
        else pure .empty
      return (name, value) :: (← flowEntries steps false)
    else if ← accept .flowMappingEnd then return []
    else
      let name ← node steps false false
      return (name, .empty) :: (← flowEntries steps false)

end

/-- The directives before a document, which say its version at most once and every tag handle at
most once.  Gives whether there were any. -/
def directives : Nat → Bool → Compose Bool
  | 0, _ => failure
  | steps + 1, versioned => do
    match ← peek with
    | some (.version major minor) =>
      if versioned || major ≠ 1 || (minor ≠ 1 && minor ≠ 2) then failure
      advance
      let _ ← directives steps true
      return true
    | some (.tagHandle handle expansion) =>
      if ((← get).tagHandles.lookup handle).isSome then failure
      advance
      modify fun composer => { composer with
        tagHandles := (handle, expansion) :: composer.tagHandles }
      let _ ← directives steps versioned
      return true
    | _ => return false

def documentEnds : Nat → Compose Unit
  | 0 => failure
  | steps + 1 => do
    if ← accept .documentEnd then documentEnds steps

/-- The root of the only document of a text; none if the text holds no document. -/
def onlyRoot (steps : Nat) : Compose (Option Node) := do
  if (← peek).isNone then return none
  let directed ← directives steps false
  let marked ← accept .documentStart
  if directed && !marked then failure
  let root ←
    if marked then
      match ← peek with
      | none | some .documentStart | some .documentEnd => pure .empty
      | some (.version ..) | some (.tagHandle ..) => pure .empty
      | _ => node steps true false
    else node steps true false
  documentEnds steps
  if (← peek).isSome then failure
  return some root

end Compose

/-- The only document of a text; none if the text is malformed or holds several documents.  A text
without a document stands for an empty one. -/
def Document.ofText? (text : List Char) : Option Document := do
  let tokens ← Token.ofText? text
  let (root, composer) ← Compose.onlyRoot (3 * tokens.length + 3) |>.run { tokens }
  let anchored := composer.targets.filterMap fun (number, serial) =>
    (composer.finished.lookup serial).map (number, ·)
  return { root := root.getD .empty, anchored }

end DocBridge.Yaml
