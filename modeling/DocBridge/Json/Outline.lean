import DocBridge.Text.Digit
import DocBridge.Text.Utf8

/-!
# Outlines of JSON texts

Reading a JSON text has two phases.  This module is the first: a pushdown machine over bytes that
finds the containers, strings, numbers and literals of the text and stops where the text stops
being JSON.  What it leaves is an `Outline`, a tree in which number and string texts are kept as
written and in which the place of the first error, if any, can be seen.  What the parts mean, and
whether they are wanted, is decided on the outline afterwards, in the order of the text.
-/

namespace DocBridge.Json

/-- A piece of a string: a byte that stands for itself or a UTF-16 unit written in hexadecimal. -/
inductive TextUnit where
  | byte (value : UInt8)
  | utf16 (value : Nat)
deriving DecidableEq, Repr

/-- A tree of the parts of a text.  A container is closed if its closing bracket was reached.
`broken` stands where a value had to begin or was begun and is none. -/
inductive Outline where
  | broken
  | null
  | bool (value : Bool)
  | number (digits : Bytes)
  | string (text : List TextUnit)
  | array (items : List Outline) (closed : Bool)
  | object (members : List (List TextUnit × Outline)) (closed : Bool)
deriving Repr

/-- An outline and whether something other than blanks follows it. -/
structure Document where
  value : Outline
  trailing : Bool
deriving Repr

namespace Outline

/-- A container that is being read, with what it holds so far, the newest first.  `member` waits
for the value of the named member. -/
inductive Frame where
  | array (items : List Outline)
  | object (members : List (List TextUnit × Outline))
  | member (name : List TextUnit) (members : List (List TextUnit × Outline))

/-- How far a number has been read. -/
inductive NumberPlace where
  | sign
  | zero
  | integer
  | point
  | fraction
  | exponentMark
  | exponentSign
  | exponent
deriving DecidableEq

/-- How far a string has been read: between two units, after a backslash, or in the hexadecimal
digits of a unit. -/
inductive TextPlace where
  | plain
  | escaped
  | hex (missing : Nat) (value : Nat)
deriving DecidableEq

/-- What the next byte is part of. -/
inductive Mode where
  | value
  | itemOrClose
  | memberOrClose
  | name
  | colon (name : List TextUnit)
  | separator
  | literal (rest : Bytes) (value : Outline)
  | number (place : NumberPlace) (digits : Bytes)
  | text (isName : Bool) (place : TextPlace) (units : List TextUnit)

/-- The machine: inside the text, behind a complete value, or stopped for good. -/
inductive State where
  | reading (mode : Mode) (frames : List Frame)
  | complete (value : Outline)
  | stopped (document : Document)

def isBlank (byte : UInt8) : Bool :=
  byte = 0x20 || byte = 0x09 || byte = 0x0A || byte = 0x0D

/-- The outline of a text that ends, or breaks, inside the given containers behind a value. -/
def enclose (value : Outline) : List Frame → Outline
  | [] => value
  | .array items :: rest => enclose (.array (items.reverse ++ [value]) false) rest
  | .object members :: rest => enclose (.object members.reverse false) rest
  | .member name members :: rest =>
    enclose (.object (members.reverse ++ [(name, value)]) false) rest

/-- The outline of a text that ends, or breaks, inside the given containers where no value is
being read. -/
def abandon : List Frame → Outline
  | [] => .broken
  | .array items :: rest => enclose (.array items.reverse false) rest
  | .object members :: rest => enclose (.object members.reverse false) rest
  | .member name members :: rest =>
    enclose (.object (members.reverse ++ [(name, .broken)]) false) rest

/-- The state after a whole value. -/
def deliver (value : Outline) : List Frame → State
  | [] => .complete value
  | .array items :: rest => .reading .separator (.array (value :: items) :: rest)
  | .object members :: rest => .reading .separator (.object members :: rest)
  | .member name members :: rest =>
    .reading .separator (.object ((name, value) :: members) :: rest)

/-- Where a number may end. -/
def NumberPlace.accepts : NumberPlace → Bool
  | .zero | .integer | .fraction | .exponent => true
  | _ => false

/-- Where a byte leads inside a number. -/
def NumberPlace.next? (place : NumberPlace) (byte : UInt8) : Option NumberPlace :=
  match place with
  | .sign =>
    if byte = 0x30 then some .zero
    else if Digit.isDecimalByte byte then some .integer
    else none
  | .zero =>
    if byte = 0x2E then some .point
    else if byte = 0x65 || byte = 0x45 then some .exponentMark
    else none
  | .integer =>
    if Digit.isDecimalByte byte then some .integer
    else if byte = 0x2E then some .point
    else if byte = 0x65 || byte = 0x45 then some .exponentMark
    else none
  | .point => if Digit.isDecimalByte byte then some .fraction else none
  | .fraction =>
    if Digit.isDecimalByte byte then some .fraction
    else if byte = 0x65 || byte = 0x45 then some .exponentMark
    else none
  | .exponentMark =>
    if Digit.isDecimalByte byte then some .exponent
    else if byte = 0x2B || byte = 0x2D then some .exponentSign
    else none
  | .exponentSign => if Digit.isDecimalByte byte then some .exponent else none
  | .exponent => if Digit.isDecimalByte byte then some .exponent else none

/-- Whether a byte cannot follow a number's text: a digit after a leading zero. -/
def NumberPlace.refuses (place : NumberPlace) (byte : UInt8) : Bool :=
  place = .zero && Digit.isDecimalByte byte

/-- The byte that a letter after a backslash stands for. -/
def escapeValue? (byte : UInt8) : Option UInt8 :=
  if byte = 0x22 || byte = 0x5C || byte = 0x2F then some byte
  else if byte = 0x62 then some 0x08
  else if byte = 0x66 then some 0x0C
  else if byte = 0x6E then some 0x0A
  else if byte = 0x72 then some 0x0D
  else if byte = 0x74 then some 0x09
  else none

/-- The state in which a text is not JSON where no value is being read. -/
def halt (frames : List Frame) : State := .stopped ⟨abandon frames, false⟩

/-- The first byte of a value. -/
def begin (frames : List Frame) (byte : UInt8) : State :=
  if byte = 0x7B then .reading .memberOrClose (.object [] :: frames)
  else if byte = 0x5B then .reading .itemOrClose (.array [] :: frames)
  else if byte = 0x22 then .reading (.text false .plain []) frames
  else if byte = 0x6E then .reading (.literal [0x75, 0x6C, 0x6C] .null) frames
  else if byte = 0x74 then .reading (.literal [0x72, 0x75, 0x65] (.bool true)) frames
  else if byte = 0x66 then .reading (.literal [0x61, 0x6C, 0x73, 0x65] (.bool false)) frames
  else if byte = 0x2D then .reading (.number .sign [byte]) frames
  else if byte = 0x30 then .reading (.number .zero [byte]) frames
  else if Digit.isDecimalByte byte then .reading (.number .integer [byte]) frames
  else .stopped ⟨enclose .broken frames, false⟩

/-- A byte behind an item or a member. -/
def separate (frames : List Frame) (byte : UInt8) : State :=
  match frames with
  | .array items :: rest =>
    if byte = 0x2C then .reading .value frames
    else if byte = 0x5D then deliver (.array items.reverse true) rest
    else halt frames
  | .object members :: rest =>
    if byte = 0x2C then .reading .name frames
    else if byte = 0x7D then deliver (.object members.reverse true) rest
    else halt frames
  | _ => halt frames

/-- A byte behind a complete value. -/
def trail (value : Outline) (byte : UInt8) : State :=
  if isBlank byte then .complete value else .stopped ⟨value, true⟩

/-- A byte between tokens behind a value: a blank, a separator or a closing bracket. -/
def follow (state : State) (byte : UInt8) : State :=
  match state with
  | .complete value => trail value byte
  | .reading .separator frames =>
    if isBlank byte then .reading .separator frames else separate frames byte
  | other => other

/-- A byte of a string. -/
def stepText (isName : Bool) (place : TextPlace) (units : List TextUnit) (frames : List Frame)
    (byte : UInt8) : State :=
  let broken : State :=
    if isName then halt frames else .stopped ⟨enclose .broken frames, false⟩
  match place with
  | .plain =>
    if byte = 0x22 then
      if isName then .reading (.colon units.reverse) frames
      else deliver (.string units.reverse) frames
    else if byte = 0x5C then .reading (.text isName .escaped units) frames
    else if byte < 0x20 then broken
    else .reading (.text isName .plain (.byte byte :: units)) frames
  | .escaped =>
    if byte = 0x75 then .reading (.text isName (.hex 3 0) units) frames
    else match escapeValue? byte with
      | some value => .reading (.text isName .plain (.byte value :: units)) frames
      | none => broken
  | .hex missing value =>
    match Digit.byteValue? byte with
    | none => broken
    | some digit =>
      match missing with
      | 0 => .reading (.text isName .plain (.utf16 (value * 16 + digit) :: units)) frames
      | more + 1 => .reading (.text isName (.hex more (value * 16 + digit)) units) frames

/-- One byte. -/
def step (state : State) (byte : UInt8) : State :=
  match state with
  | .stopped document => .stopped document
  | .complete value => trail value byte
  | .reading mode frames =>
    match mode with
    | .value => if isBlank byte then state else begin frames byte
    | .itemOrClose =>
      if isBlank byte then state
      else if byte = 0x5D then separate frames byte
      else begin frames byte
    | .memberOrClose =>
      if isBlank byte then state
      else if byte = 0x7D then separate frames byte
      else if byte = 0x22 then .reading (.text true .plain []) frames
      else halt frames
    | .name =>
      if isBlank byte then state
      else if byte = 0x22 then .reading (.text true .plain []) frames
      else halt frames
    | .colon name =>
      if isBlank byte then state
      else match frames with
        | .object members :: rest =>
          if byte = 0x3A then .reading .value (.member name members :: rest)
          else halt (.member name members :: rest)
        | _ => halt frames
    | .separator => follow state byte
    | .literal [] value => follow (deliver value frames) byte
    | .literal [expected] value =>
      if byte = expected then deliver value frames
      else .stopped ⟨enclose .broken frames, false⟩
    | .literal (expected :: rest) value =>
      if byte = expected then .reading (.literal rest value) frames
      else .stopped ⟨enclose .broken frames, false⟩
    | .number place digits =>
      match place.next? byte with
      | some place => .reading (.number place (byte :: digits)) frames
      | none =>
        if place.accepts && !place.refuses byte then
          follow (deliver (.number digits.reverse) frames) byte
        else .stopped ⟨enclose .broken frames, false⟩
    | .text isName place units => stepText isName place units frames byte

def run (state : State) (bytes : Bytes) : State := bytes.foldl step state

theorem run_cons (state : State) (byte : UInt8) (bytes : Bytes) :
    run state (byte :: bytes) = run (step state byte) bytes := rfl

theorem run_append (state : State) (first second : Bytes) :
    run state (first ++ second) = run (run state first) second :=
  List.foldl_append

/-- What is left when the bytes end. -/
def State.finish : State → Document
  | .stopped document => document
  | .complete value => ⟨value, false⟩
  | .reading mode frames =>
    match mode with
    | .number place digits =>
      if place.accepts then
        match deliver (.number digits.reverse) frames with
        | .complete value => ⟨value, false⟩
        | .reading _ frames => ⟨abandon frames, false⟩
        | .stopped document => document
      else ⟨enclose .broken frames, false⟩
    | .literal _ _ | .text false _ _ | .value => ⟨enclose .broken frames, false⟩
    | .colon name =>
      match frames with
      | .object members :: rest => ⟨abandon (.member name members :: rest), false⟩
      | _ => ⟨abandon frames, false⟩
    | _ => ⟨abandon frames, false⟩

def ofBytes (bytes : Bytes) : Document := (run (.reading .value []) bytes).finish

mutual

/-- Whether every part is whole. -/
def wellFormed : Outline → Bool
  | .broken => false
  | .null | .bool _ | .number _ | .string _ => true
  | .array items closed => wellFormedItems items && closed
  | .object members closed => wellFormedMembers members && closed

def wellFormedItems : List Outline → Bool
  | [] => true
  | item :: rest => item.wellFormed && wellFormedItems rest

def wellFormedMembers : List (List TextUnit × Outline) → Bool
  | [] => true
  | (_, value) :: rest => value.wellFormed && wellFormedMembers rest

end

end Outline

end DocBridge.Json
