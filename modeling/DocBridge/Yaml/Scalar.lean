import DocBridge.Text.Digit
import DocBridge.Yaml.Cursor

/-!
# YAML scalars

The five ways to write a text: plain, in single or double quotes, and as a literal or folded block.
Where a plain or quoted text goes over a line break, the break and the blanks around it are folded.

The functions of this module read a scalar at a cursor.  They give its text and the cursor behind
it, or nothing if it is malformed.  Their first argument bounds the number of steps; the length of
what is left of the text suffices.
-/

namespace DocBridge.Yaml

inductive ScalarStyle where
  | plain
  | singleQuoted
  | doubleQuoted
  | literal
  | folded
deriving DecidableEq, Repr

/-- What stands between two words of a scalar: blanks, or line breaks once there is one.  The first
break of an `escaped` gap was written behind a backslash and does not count. -/
structure Gap where
  blanks : List Char := []
  broken : Bool := false
  escaped : Bool := false
  breaks : List Char := []
deriving DecidableEq, Repr

namespace Gap

/-- The text of a gap.  A single line feed is read as a space; of several the first is dropped. -/
def text (gap : Gap) : List Char :=
  if !gap.broken then gap.blanks
  else if gap.escaped then gap.breaks
  else
    match gap.breaks with
    | ['\n'] => [' ']
    | '\n' :: more => more
    | breaks => breaks

def read (margin : Nat) : Nat → Gap → Cursor → Option (Gap × Cursor)
  | 0, _, _ => none
  | steps + 1, gap, cursor =>
    match cursor.rest with
    | [] => some (gap, cursor)
    | character :: _ =>
      if isBlank character then
        if !gap.broken then
          read margin steps { gap with blanks := gap.blanks ++ [character] } (cursor.skip 1)
        else if character = '\t' && cursor.column < margin then none
        else read margin steps gap (cursor.skip 1)
      else
        match cursor.lineBreak? with
        | some (mark, after) =>
          read margin steps { gap with broken := true, breaks := gap.breaks ++ [mark] } after
        | none => some (gap, cursor)

end Gap

/-! Plain scalars -/

/-- The word of a plain scalar at the start of a text; none if a colon stands where it cannot. -/
def plainWord? (inFlow : Bool) : List Char → Option (List Char)
  | [] => some []
  | character :: rest =>
    if isBlank character || isBreak character then some []
    else if inFlow && character = ':' && isAhead ",?[]\x7b\x7d" rest then none
    else if (character = ':' && gapAhead rest) ||
        (inFlow && isAhead ",[]\x7b\x7d" [character]) then some []
    else (character :: ·) <$> plainWord? inFlow rest

/-- A plain scalar: its text, whether a line break was read behind it, and the cursor behind what
was read.  Outside of brackets, it ends on a line that does not reach `margin`. -/
def readPlain (inFlow : Bool) (margin : Nat) :
    Nat → List Char → Gap → Cursor → Option (List Char × Bool × Cursor)
  | 0, _, _, _ => none
  | steps + 1, text, gap, cursor => do
    if cursor.atDocumentMark || isAhead "#" cursor.rest then return (text, gap.broken, cursor)
    let word ← plainWord? inFlow cursor.rest
    if word.isEmpty then return (text, gap.broken, cursor)
    let text := text ++ gap.text ++ word
    let behindWord := cursor.skip word.length
    let (next, after) ← Gap.read margin (cursor.rest.length + 1) {} behindWord
    if !next.broken && next.blanks.isEmpty then return (text, false, behindWord)
    if !inFlow && after.column < margin then return (text, next.broken, after)
    readPlain inFlow margin steps text next after

/-! Quoted scalars -/

/-- The characters up to a blank, a break or the closing quote; two quotes are one.  Also gives what
is left behind them. -/
def singleQuotedWord : List Char → List Char × List Char
  | [] => ([], [])
  | '\'' :: '\'' :: rest =>
    let (word, behind) := singleQuotedWord rest
    ('\'' :: word, behind)
  | character :: rest =>
    if character = '\'' || isBlank character || isBreak character then ([], character :: rest)
    else
      let (word, behind) := singleQuotedWord rest
      (character :: word, behind)

def escapedCharacter? : Char → Option Char
  | '0' => some '\x00'
  | 'a' => some '\x07'
  | 'b' => some '\x08'
  | 't' | '\t' => some '\t'
  | 'n' => some '\n'
  | 'v' => some '\x0b'
  | 'f' => some '\x0c'
  | 'r' => some '\r'
  | 'e' => some '\x1b'
  | ' ' => some ' '
  | '"' => some '"'
  | '/' => some '/'
  | '\\' => some '\\'
  | 'N' => some '\u0085'
  | '_' => some '\u00a0'
  | 'L' => some '\u2028'
  | 'P' => some '\u2029'
  | _ => none

def escapeWidth? : Char → Option Nat
  | 'x' => some 2
  | 'u' => some 4
  | 'U' => some 8
  | _ => none

def characterOfCode? (code : Nat) : Option Char :=
  if code < 0xD800 ∨ (0xDFFF < code ∧ code ≤ 0x10FFFF) then some (Char.ofNat code) else none

/-- The characters up to a blank, a break or the closing quote, whether a backslash stands before
that break, and what is left. -/
def doubleQuotedWord? : Nat → List Char → Option (List Char × Bool × List Char)
  | 0, _ => none
  | steps + 1, text =>
    let behind (character : Char) (rest : List Char) : Option (List Char × Bool × List Char) :=
      (doubleQuotedWord? steps rest).map fun (word, escaped, rest) =>
        (character :: word, escaped, rest)
    match text with
    | [] => some ([], false, [])
    | '\\' :: [] => none
    | '\\' :: character :: rest =>
      if isBreak character then some ([], true, character :: rest)
      else
        match escapedCharacter? character, escapeWidth? character with
        | some meant, _ => behind meant rest
        | none, some width =>
          if rest.length < width then none
          else
            match (Digit.number? 16 (rest.take width)).bind characterOfCode? with
            | some meant => behind meant (rest.drop width)
            | none => none
        | none, none => none
    | character :: rest =>
      if character = '"' || isBlank character || isBreak character then
        some ([], false, character :: rest)
      else behind character rest

/-- A quoted scalar from behind its opening quote to behind its closing one. -/
def readQuoted (single : Bool) : Nat → List Char → Cursor → Option (List Char × Cursor)
  | 0, _, _ => none
  | steps + 1, text, cursor => do
    if cursor.atDocumentMark || cursor.rest.isEmpty then none
    let (word, escaped, rest) ←
      if single then
        let (word, rest) := singleQuotedWord cursor.rest
        some (word, false, rest)
      else doubleQuotedWord? (cursor.rest.length + 1) cursor.rest
    let text := text ++ word
    let behindWord := cursor.moveTo rest
    if isAhead (if single then "'" else "\"") rest then return (text, behindWord.skip 1)
    let start := match escaped, behindWord.lineBreak? with
      | true, some (_, after) => after
      | _, _ => behindWord
    if isAhead (if single then "'" else "\"") start.rest then return (text, start.skip 1)
    let (gap, after) ← Gap.read 0 (cursor.rest.length + 1)
      { broken := escaped, escaped := escaped } start
    readQuoted single steps (text ++ gap.text) after

/-! Block scalars -/

/-- What is kept of the line breaks at the end of a block. -/
inductive Chomping where
  | strip
  | clip
  | keep
deriving DecidableEq, Repr

/-- What stands behind the mark of a block: its chomping, and its indentation if that is given. -/
structure BlockHeader where
  chomping : Chomping := .clip
  indentation : Option Nat := none
deriving DecidableEq, Repr

def chomping? : Char → Option Chomping
  | '+' => some .keep
  | '-' => some .strip
  | _ => none

/-- Reads a block's header: chomping and indentation in either order. -/
def readBlockHeader (cursor : Cursor) : Option (BlockHeader × Cursor) := do
  let (first, cursor) := chomp cursor
  let (indentation, cursor) ← indent cursor
  let (second, cursor) := if first.isSome then (none, cursor)
    else if indentation.isSome then chomp cursor else (none, cursor)
  let after ← cursor.restOfLine?
  return (⟨(first.or second).getD .clip, indentation⟩, after)
where
  /-- The chomping at a cursor. -/
  chomp (cursor : Cursor) : Option Chomping × Cursor :=
    match cursor.rest.head?.bind chomping? with
    | some chomping => (some chomping, cursor.skip 1)
    | none => (none, cursor)
  /-- The indentation at a cursor, which is not zero. -/
  indent (cursor : Cursor) : Option (Option Nat × Cursor) :=
    match cursor.rest with
    | '0' :: _ => none
    | digit :: _ =>
      if '1' ≤ digit && digit ≤ '9' then
        some (some (digit.toNat - '0'.toNat), cursor.skip 1)
      else some (none, cursor)
    | [] => some (none, cursor)

/-- Reads empty lines: their breaks, the widest indentation that was met, and the cursor behind the
indentation of the line that is not empty.  No more than `limit` columns count as indentation if
there is a limit, and no tab may stand in them. -/
def readEmptyLines (limit : Option Nat) :
    Nat → Nat → List Char → Cursor → Option (List Char × Nat × Cursor)
  | 0, _, _, _ => none
  | steps + 1, widest, breaks, cursor =>
    let spaces := (cursor.rest.takeWhile (· = ' ')).length
    let cursor := cursor.skip (match limit with
      | some limit => min spaces (limit - cursor.column)
      | none => spaces)
    let widest := max widest cursor.column
    if (limit.all (cursor.column < ·)) && isAhead "\t" cursor.rest then none
    else
      match cursor.lineBreak? with
      | some (mark, after) => readEmptyLines limit steps widest (breaks ++ [mark]) after
      | none => some (breaks, widest, cursor)

/-- The lines of a block that have been read: the text, the break behind its last line, whether that
line starts with a blank, and the breaks of the empty lines behind it. -/
structure BlockLines where
  text : List Char := []
  lineBreak : List Char := []
  startsBlank : Bool := false
  emptyLines : List Char := []
deriving DecidableEq, Repr

namespace BlockLines

/-- The breaks before the next line.  In a folded block a single line feed between two lines that
start with no blank is a space, and is dropped before empty lines. -/
def joint (folded nextStartsBlank : Bool) (lines : BlockLines) : List Char :=
  if folded && lines.lineBreak = ['\n'] && !lines.startsBlank && !nextStartsBlank then
    if lines.emptyLines.isEmpty then [' '] else lines.emptyLines
  else lines.lineBreak ++ lines.emptyLines

def read (folded : Bool) (indentation : Nat) :
    Nat → BlockLines → Cursor → Option (BlockLines × Cursor)
  | 0, _, _ => none
  | steps + 1, lines, cursor =>
    if cursor.column ≠ indentation ∨ cursor.rest.isEmpty then some (lines, cursor)
    else do
      let startsBlank := isAhead " \t" cursor.rest
      let (content, behindContent) := cursor.span (!isBreak ·)
      let (lineBreak, after) := match behindContent.lineBreak? with
        | some (mark, after) => ([mark], after)
        | none => ([], behindContent)
      let (emptyLines, _, after) ←
        readEmptyLines (some indentation) (after.rest.length + 1) 0 [] after
      read folded indentation steps
        ⟨lines.text ++ lines.joint folded startsBlank ++ content, lineBreak, startsBlank,
          emptyLines⟩ after

def chomp (chomping : Chomping) (lines : BlockLines) : List Char :=
  match chomping with
  | .strip => lines.text
  | .clip => lines.text ++ lines.lineBreak
  | .keep => lines.text ++ lines.lineBreak ++ lines.emptyLines

end BlockLines

/-- A block from behind its mark.  `margin` is the first column inside the block around it. -/
def readBlock (folded : Bool) (margin : Nat) (cursor : Cursor) : Option (List Char × Cursor) := do
  let steps := cursor.rest.length + 1
  let (header, start) ← readBlockHeader cursor
  let limit := header.indentation.map (margin - 1 + ·)
  let (emptyLines, widest, start) ← readEmptyLines limit steps 0 [] start
  let indentation := limit.getD (max widest (max margin 1))
  let (lines, after) ← BlockLines.read folded indentation steps { emptyLines } start
  return (lines.chomp header.chomping, after)

end DocBridge.Yaml
