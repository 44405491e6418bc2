import DocBridge.Text.Digit
import DocBridge.Text.Split
import DocBridge.Url.Percent

/-!
# Internet addresses

Hosts that are numbers.  An IPv4 address has up to four numbers, the last of which fills the rest;
an IPv6 address has eight groups, of which one run of zeros may be left out.  Their texts are the
dotted and the shortest colon notation.
-/

namespace DocBridge.Url.Address

/-! ## IPv4 -/

/-- A number of an IPv4 address: decimal, octal behind a zero, hexadecimal behind `0x`. -/
def ipv4Number? : List Char → Option Nat
  | [] => none
  | '0' :: 'x' :: digits => Digit.number? 16 digits
  | '0' :: 'X' :: digits => Digit.number? 16 digits
  | '0' :: digit :: digits => Digit.number? 8 (digit :: digits)
  | digits => Digit.number? 10 digits

/-- The parts between dots, without an empty last one. -/
def ipv4Parts (text : List Char) : List (List Char) :=
  let parts := splitAll (· == '.') text
  if parts.getLast? == some [] then parts.dropLast else parts

/-- Whether a host has to be an IPv4 address: its last part is a number. -/
def endsInNumber (text : List Char) : Bool :=
  match (ipv4Parts text).getLast? with
  | none => false
  | some last =>
    (!last.isEmpty && last.all Digit.isDecimal) || (ipv4Number? last).isSome

/-- The address of a list of numbers: each of the first ones is a byte, the last fills the rest. -/
def ipv4OfNumbers? (numbers : List Nat) : Option Nat :=
  match numbers.getLast? with
  | none => none
  | some last =>
    let bytes := numbers.dropLast
    if bytes.length < 4 && bytes.all (· < 256) && last < Nat.pow 256 (4 - bytes.length) then
      some (bytes.foldr (fun byte (value : Nat × Nat) => (value.1 + byte * value.2, value.2 * 256))
        (last, Nat.pow 256 (4 - bytes.length))).1
    else none

def ipv4? (text : List Char) : Option Nat :=
  ((ipv4Parts text).mapM ipv4Number?).bind ipv4OfNumbers?

def ipv4Text (address : Nat) : List Char :=
  let octet (place : Nat) : List Char := Nat.toDigits 10 (address / place % 256)
  octet 0x1000000 ++ '.' :: (octet 0x10000 ++ '.' :: (octet 0x100 ++ '.' :: octet 1))

/-! ## IPv6 -/

/-- A decimal byte of an embedded IPv4 address, without a leading zero. -/
def embeddedByte? (digits : List Char) : Option Nat :=
  if digits.isEmpty || digits.length > 3 || !digits.all Digit.isDecimal then none
  else if digits.length > 1 && digits.head? == some '0' then none
  else (Digit.number? 10 digits).bind fun value => if value < 256 then some value else none

/-- The two groups of an embedded IPv4 address. -/
def embedded? (text : List Char) : Option (List Nat) :=
  match (splitAll (· == '.') text).mapM embeddedByte? with
  | some [first, second, third, fourth] => some [first * 256 + second, third * 256 + fourth]
  | _ => none

/-- Groups between colons.  Only the last one may be an embedded IPv4 address. -/
def groups? : List (List Char) → Option (List Nat)
  | [] => some []
  | [last] => if last.contains '.' then embedded? last else group? last
  | first :: rest => do return (← group? first) ++ (← groups? rest)
where
  /-- One group of up to four digits. -/
  group? (digits : List Char) : Option (List Nat) :=
    if digits.isEmpty || digits.length > 4 then none else (Digit.number? 16 digits).map ([·])

/-- The groups of a text that may be empty. -/
def groupsOrNone? (text : List Char) : Option (List Nat) :=
  if text.isEmpty then some [] else groups? (splitAll (· == ':') text)

/-- What stands before and behind the first double colon. -/
def splitDoubleColon : List Char → List Char × Option (List Char)
  | ':' :: ':' :: rest => ([], some rest)
  | character :: rest =>
    let (before, behind) := splitDoubleColon rest
    (character :: before, behind)
  | [] => ([], none)

/-- The eight groups of an IPv6 address. -/
def ipv6? (text : List Char) : Option (List Nat) :=
  match splitDoubleColon text with
  | (all, none) => do
    let groups ← groups? (splitAll (· == ':') all)
    if groups.length = 8 then some groups else none
  | (before, some behind) => do
    let first ← if before.contains '.' then none else groupsOrNone? before
    let last ← groupsOrNone? behind
    if first.length + last.length < 8 then
      some (first ++ List.replicate (8 - first.length - last.length) 0 ++ last)
    else none

/-- The length of the run of zeros at the start. -/
def zeroRun (groups : List Nat) : Nat := (groups.takeWhile (· == 0)).length

/-- The place and length of the first of the longest runs of zeros. -/
def longestRun (groups : List Nat) : Nat × Nat :=
  (List.range groups.length).foldl (fun best index =>
    let run := zeroRun (groups.drop index)
    if best.2 < run then (index, run) else best) (0, 0)

def groupsText (groups : List Nat) : List Char :=
  (groups.map (Nat.toDigits 16)).intersperse [':'] |>.flatten

/-- The colon notation with the first of the longest runs of two or more zeros left out. -/
def ipv6Text (groups : List Nat) : List Char :=
  let (place, run) := longestRun groups
  if run < 2 then groupsText groups
  else groupsText (groups.take place) ++ ':' :: ':' :: groupsText (groups.drop (place + run))

end DocBridge.Url.Address
