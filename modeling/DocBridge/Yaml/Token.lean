import DocBridge.Text.Utf8
import DocBridge.Yaml.Scalar

/-!
# YAML tokens

A text as a list of tokens.  Blocks, which the text marks by indentation alone, have tokens of their
own at their ends.  That something is a key shows only at the colon behind it, so the tokens before
a key are put in when its colon is met.
-/

namespace DocBridge.Yaml

inductive Token where
  | version (major minor : Nat)
  | tagHandle (handle expansion : String)
  | documentStart
  | documentEnd
  | blockSequenceStart
  | blockMappingStart
  | blockEnd
  | flowSequenceStart
  | flowSequenceEnd
  | flowMappingStart
  | flowMappingEnd
  | blockEntry
  | flowEntry
  | key
  | value
  | alias (name : String)
  | anchor (name : String)
  | tag (handle suffix : String)
  | scalar (text : String) (style : ScalarStyle)
deriving DecidableEq, Repr

/-- A place where a key may have started: the number of tokens before it and where it stands.  Where
one is required, it is an error if no colon follows. -/
structure PossibleKey where
  position : Nat
  index : Nat
  line : Nat
  column : Nat
  required : Bool
deriving DecidableEq, Repr

/-- The state of reading tokens.  `margin` is the first column inside the innermost block, zero
outside of all blocks, and `outer` holds those of the blocks around it.  There is one possible key
for the blocks and one for every open bracket, the innermost first.  The tokens are in reverse. -/
structure Scanner where
  cursor : Cursor
  margin : Nat := 0
  outer : List Nat := []
  possibleKey : Option PossibleKey := none
  outerKeys : List (Option PossibleKey) := []
  keyAllowed : Bool := true
  tokens : List Token := []
deriving Repr

namespace Scanner

def inFlow (scanner : Scanner) : Bool := !scanner.outerKeys.isEmpty

def emit (token : Token) (cursor : Cursor) (scanner : Scanner) : Scanner :=
  { scanner with tokens := token :: scanner.tokens, cursor := cursor }

def indicator (token : Token) (width : Nat) (scanner : Scanner) : Scanner :=
  scanner.emit token (scanner.cursor.skip width)

/-- Puts a token in behind the first `position` ones. -/
def insert (token : Token) (position : Nat) (scanner : Scanner) : Scanner :=
  let behind := scanner.tokens.length - position
  { scanner with
    tokens := scanner.tokens.take behind ++ token :: scanner.tokens.drop behind }

/-- Opens a block at a column that lies inside of the innermost one.  Its token goes behind the
first `position` ones. -/
def openBlock (column : Nat) (token : Token) (position : Nat) (scanner : Scanner) : Scanner :=
  if scanner.inFlow || column < scanner.margin then scanner
  else
    { scanner.insert token position with
      margin := column + 1
      outer := scanner.margin :: scanner.outer }

def openBlockHere (token : Token) (scanner : Scanner) : Scanner :=
  scanner.openBlock scanner.cursor.column token scanner.tokens.length

/-- Closes the blocks whose margin is beyond the given one. -/
def closeBlocks (margin : Nat) (scanner : Scanner) : Scanner :=
  if scanner.inFlow then scanner
  else go margin scanner scanner.outer
where
  /-- Goes through the margins of the outer blocks. -/
  go (margin : Nat) (scanner : Scanner) : List Nat → Scanner
    | [] => scanner
    | next :: outer =>
      if scanner.margin ≤ margin then scanner
      else go margin
        { scanner with tokens := .blockEnd :: scanner.tokens, margin := next, outer := outer } outer

/-- Gives up the innermost possible key; an error if it is required. -/
def forgetKey (scanner : Scanner) : Option Scanner :=
  if scanner.possibleKey.any (·.required) then none
  else some { scanner with possibleKey := none }

/-- Notes that a key may start at the cursor, if keys are allowed there. -/
def noteKey (scanner : Scanner) : Option Scanner :=
  if !scanner.keyAllowed then some scanner
  else do
    let cursor := scanner.cursor
    let scanner ← scanner.forgetKey
    return { scanner with
      possibleKey := some {
        position := scanner.tokens.length
        index := cursor.index
        line := cursor.line
        column := cursor.column
        required := !scanner.inFlow && scanner.margin = cursor.column + 1 } }

def isStale (cursor : Cursor) (key : PossibleKey) : Bool :=
  key.line < cursor.line || key.index + 1024 < cursor.index

/-- The possible key unless it is stale; an error if it is stale and required. -/
def refreshKey (cursor : Cursor) : Option PossibleKey → Option (Option PossibleKey)
  | some key =>
    if !isStale cursor key then some (some key) else if key.required then none else some none
  | none => some none

def dropStaleKeys (scanner : Scanner) : Option Scanner := do
  let possibleKey ← refreshKey scanner.cursor scanner.possibleKey
  let outerKeys ← scanner.outerKeys.mapM (refreshKey scanner.cursor)
  return { scanner with possibleKey, outerKeys }

/-- Goes past blanks, comments and line breaks.  A tab is a blank only where no key may start. -/
def skipToToken : Nat → Scanner → Scanner
  | 0, scanner => scanner
  | steps + 1, scanner =>
    let cursor := scanner.cursor
    let cursor := if cursor.column = 0 && isAhead "\ufeff" cursor.rest then cursor.skip 1
      else cursor
    let cursor := cursor.skipWhile fun character =>
      character = ' ' || (character = '\t' && (scanner.inFlow || !scanner.keyAllowed))
    let cursor := if isAhead "#" cursor.rest then cursor.skipWhile (!isBreak ·) else cursor
    match cursor.lineBreak? with
    | some (_, after) =>
      skipToToken steps { scanner with
        cursor := after
        keyAllowed := scanner.keyAllowed || !scanner.inFlow }
    | none => { scanner with cursor }

/-! Directives, anchors and tags -/

/-- A number of a version, of at most nine digits. -/
def versionNumber? (cursor : Cursor) : Option (Nat × Cursor) :=
  let (digits, after) := cursor.span fun character => '0' ≤ character && character ≤ '9'
  if digits.isEmpty || 9 < digits.length then none
  else some (digits.foldl (fun n digit => n * 10 + (digit.toNat - '0'.toNat)) 0, after)

/-- Whether a character may stand in a tag.  Some may only where the tag is closed by a bracket. -/
def isTagCharacter (bracketed : Bool) (character : Char) : Bool :=
  isNameCharacter character || isAhead ";/?:@&=+$.%!~*'()" [character] ||
    (bracketed && isAhead ",[]" [character])

/-- The text of a tag with its percent escapes resolved; none if they are malformed. -/
def unescapeTag? (characters : List Char) : Option String :=
  (bytes? characters).bind ofUtf8?
where
  /-- The bytes that are meant. -/
  bytes? : List Char → Option Bytes
    | '%' :: high :: low :: rest => do
      let value := (← Digit.value? high) * 16 + (← Digit.value? low)
      return UInt8.ofNat value :: (← bytes? rest)
    | '%' :: _ => none
    | character :: rest => return Utf8.encode [character] ++ (← bytes? rest)
    | [] => some []

/-- The rest of a tag, in brackets or not. -/
def tagText? (bracketed : Bool) (cursor : Cursor) : Option (String × Cursor) := do
  let (characters, after) := cursor.span (isTagCharacter bracketed)
  return (← unescapeTag? characters, after)

/-- A tag handle: an exclamation mark, and perhaps a name and another one. -/
def tagHandle? (cursor : Cursor) : Option (String × Cursor) := do
  if !isAhead "!" cursor.rest then none
  let (name, after) := (cursor.skip 1).span isNameCharacter
  if isAhead "!" after.rest then return (String.ofList ('!' :: name ++ ['!']), after.skip 1)
  return (String.ofList ('!' :: name), after)

def readDirective (cursor : Cursor) : Option (Token × Cursor) := do
  let (name, afterName) := cursor.span isNameCharacter
  if !gapAhead afterName.rest then none
  let start := afterName.skipWhile isBlank
  let (token, after) ← match String.ofList name with
    | "YAML" => do
      let (major, afterMajor) ← versionNumber? start
      if !isAhead "." afterMajor.rest then none
      let (minor, after) ← versionNumber? (afterMajor.skip 1)
      some (.version major minor, after)
    | "TAG" => do
      let (handle, afterHandle) ← tagHandle? start
      if handle ≠ "!" && !handle.endsWith "!" then none
      if !isAhead " \t" afterHandle.rest then none
      let (expansion, after) ← tagText? true (afterHandle.skipWhile isBlank)
      if expansion.isEmpty || !gapAhead after.rest then none
      some (.tagHandle handle expansion, after)
    | _ => none
  return (token, ← after.restOfLine?)

/-- The name of an anchor or an alias, from behind its mark. -/
def readName (cursor : Cursor) : Option (String × Cursor) :=
  let (name, after) := cursor.span isNameCharacter
  if name.isEmpty || !(gapAhead after.rest || isAhead "?:,]\x7d%@\x60" after.rest) then none
  else some (String.ofList name, after)

/-- A tag.  Without a handle it is the whole tag. -/
def readTag (inFlow : Bool) (cursor : Cursor) : Option (Token × Cursor) := do
  let (token, after) ←
    if startsWith "!<" cursor.rest then do
      let (text, after) ← tagText? true (cursor.skip 2)
      if text.isEmpty || !isAhead ">" after.rest then none
      some (.tag "" text, after.skip 1)
    else do
      let (handle, afterHandle) ← tagHandle? cursor
      if handle ≠ "!" && handle.endsWith "!" then
        let (suffix, after) ← tagText? false afterHandle
        if suffix.isEmpty then none
        some (.tag handle suffix, after)
      else
        let (suffix, after) ← tagText? false (cursor.skip 1)
        some (if suffix.isEmpty then .tag "" "!" else .tag "!" suffix, after)
  if gapAhead after.rest || (inFlow && isAhead "," after.rest) then return (token, after) else none

/-! Tokens -/

/-- Reads a directive or a mark between documents, before which every block ends. -/
def betweenDocuments (read : Scanner → Option Scanner) (scanner : Scanner) : Option Scanner := do
  let scanner ← (scanner.closeBlocks 0).forgetKey
  read { scanner with keyAllowed := false }

def openFlow (token : Token) (scanner : Scanner) : Option Scanner := do
  let scanner ← scanner.noteKey
  return { scanner with
    possibleKey := none
    outerKeys := scanner.possibleKey :: scanner.outerKeys
    keyAllowed := true }.indicator token 1

def closeFlow (token : Token) (scanner : Scanner) : Option Scanner := do
  let scanner ← scanner.forgetKey
  let (possibleKey, outerKeys) := match scanner.outerKeys with
    | [] => (none, [])
    | key :: keys => (key, keys)
  return { scanner with possibleKey, outerKeys, keyAllowed := false }.indicator token 1

def flowEntry (scanner : Scanner) : Option Scanner := do
  let scanner ← scanner.forgetKey
  return { scanner with keyAllowed := true }.indicator .flowEntry 1

def blockEntry (scanner : Scanner) : Option Scanner := do
  if !scanner.inFlow && !scanner.keyAllowed then none
  let scanner ← (scanner.openBlockHere .blockSequenceStart).forgetKey
  return { scanner with keyAllowed := true }.indicator .blockEntry 1

def explicitKey (scanner : Scanner) : Option Scanner := do
  if !scanner.inFlow && !scanner.keyAllowed then none
  let scanner ← (scanner.openBlockHere .blockMappingStart).forgetKey
  return { scanner with keyAllowed := !scanner.inFlow }.indicator .key 1

/-- A colon before a value.  If a key may have started before, it has. -/
def mappingValue (scanner : Scanner) : Option Scanner :=
  match scanner.possibleKey with
  | some key =>
    let marked := (scanner.insert .key key.position).openBlock key.column .blockMappingStart
      key.position
    some ({ marked with possibleKey := none, keyAllowed := false }.indicator .value 1)
  | none =>
    if !scanner.inFlow && !scanner.keyAllowed then none
    else
      let opened := scanner.openBlockHere .blockMappingStart
      some ({ opened with keyAllowed := !scanner.inFlow }.indicator .value 1)

/-- A token behind which no key may start but with which one may. -/
def inKey (read : Cursor → Option (Token × Cursor)) (scanner : Scanner) : Option Scanner := do
  let scanner ← scanner.noteKey
  let (token, after) ← read scanner.cursor
  return { scanner with keyAllowed := false }.emit token after

def block (style : ScalarStyle) (scanner : Scanner) : Option Scanner := do
  let scanner ← scanner.forgetKey
  let (text, after) ← readBlock (style = .folded) scanner.margin (scanner.cursor.skip 1)
  return { scanner with keyAllowed := true }.emit (.scalar (String.ofList text) style) after

def quoted (style : ScalarStyle) (scanner : Scanner) : Option Scanner :=
  scanner.inKey fun cursor => do
    let (text, after) ← readQuoted (style = .singleQuoted) (cursor.rest.length + 1) []
      (cursor.skip 1)
    return (.scalar (String.ofList text) style, after)

/-- A plain scalar.  A key may start behind it on a new line. -/
def plain (scanner : Scanner) : Option Scanner := do
  let scanner ← scanner.noteKey
  let cursor := scanner.cursor
  let (text, broken, after) ← readPlain scanner.inFlow scanner.margin (cursor.rest.length + 1) []
    {} cursor
  return { scanner with keyAllowed := broken }.emit (.scalar (String.ofList text) .plain) after

/-- Whether a plain scalar may start with the character before a text. -/
def startsPlain (inFlow : Bool) (character : Char) (rest : List Char) : Bool :=
  !(gapAhead [character] || isAhead "-?:,[]\x7b\x7d#&*!|>'\"%@\x60" [character]) ||
    (character = '-' && !isAhead " \t" rest) ||
    (!inFlow && (character = '?' || character = ':') && !gapAhead rest)

/-- Reads the token at the cursor, which stands on a character that is no blank. -/
def readToken (character : Char) (rest : List Char) (scanner : Scanner) : Option Scanner :=
  let cursor := scanner.cursor
  if cursor.column = 0 && character = '%' then
    scanner.betweenDocuments fun scanner => do
      let (token, after) ← readDirective (scanner.cursor.skip 1)
      return scanner.emit token after
  else if cursor.atMark "---" then
    scanner.betweenDocuments fun scanner => some (scanner.indicator .documentStart 3)
  else if cursor.atMark "..." then
    scanner.betweenDocuments fun scanner => some (scanner.indicator .documentEnd 3)
  else if character = '[' then scanner.openFlow .flowSequenceStart
  else if character = '\x7b' then scanner.openFlow .flowMappingStart
  else if character = ']' then scanner.closeFlow .flowSequenceEnd
  else if character = '\x7d' then scanner.closeFlow .flowMappingEnd
  else if character = ',' then scanner.flowEntry
  else if character = '-' && gapAhead rest then scanner.blockEntry
  else if character = '?' && (scanner.inFlow || gapAhead rest) then scanner.explicitKey
  else if character = ':' && (scanner.inFlow || gapAhead rest) then scanner.mappingValue
  else if character = '*' then
    scanner.inKey fun cursor => (readName (cursor.skip 1)).map fun (name, after) =>
      (.alias name, after)
  else if character = '&' then
    scanner.inKey fun cursor => (readName (cursor.skip 1)).map fun (name, after) =>
      (.anchor name, after)
  else if character = '!' then scanner.inKey (readTag scanner.inFlow)
  else if character = '|' && !scanner.inFlow then scanner.block .literal
  else if character = '>' && !scanner.inFlow then scanner.block .folded
  else if character = '\'' then scanner.quoted .singleQuoted
  else if character = '"' then scanner.quoted .doubleQuoted
  else if startsPlain scanner.inFlow character rest then scanner.plain
  else none

/-- Reads all tokens that are left.  Every step but the last reads at least one character. -/
def run : Nat → Scanner → Option (List Token)
  | 0, _ => none
  | steps + 1, scanner => do
    let scanner ← (scanner.skipToToken (scanner.cursor.rest.length + 1)).dropStaleKeys
    let scanner := scanner.closeBlocks (scanner.cursor.column + 1)
    match scanner.cursor.rest with
    | [] =>
      let scanner ← (scanner.closeBlocks 0).forgetKey
      return scanner.tokens.reverse
    | character :: rest => run steps (← scanner.readToken character rest)

end Scanner

def isAllowed (character : Char) : Bool :=
  let code := character.toNat
  code = 0x09 || code = 0x0A || code = 0x0D || (0x20 ≤ code && code ≤ 0x7E) || code = 0x85 ||
    (0xA0 ≤ code && code ≤ 0xD7FF) || (0xE000 ≤ code && code ≤ 0xFFFD) || 0x10000 ≤ code

def Token.ofText? (text : List Char) : Option (List Token) :=
  if text.all isAllowed then Scanner.run (text.length + 1) { cursor := ⟨text, 0, 0, 0⟩ } else none

end DocBridge.Yaml
