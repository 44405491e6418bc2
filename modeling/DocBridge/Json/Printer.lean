import DocBridge.Decimal.Shortest
import DocBridge.Json.Basic
import DocBridge.Json.Quoted

/-!
# Writing JSON

Two layouts: compact, without any blank, and pretty, with every item and member on a line of its
own, two spaces deeper than its container.  Both keep the order of members.
-/

namespace DocBridge

/-- The digits of an integer after its sign. -/
def decimalText (n : Int) : List Char :=
  if n < 0 then '-' :: Nat.toDigits 10 n.natAbs else Nat.toDigits 10 n.natAbs

/-- Integers in decimal, doubles as their shortest decimals. -/
def Number.text : Number → List Char
  | .integer n => decimalText n.value
  | .double x => x.text

namespace Json

def boolText (value : Bool) : List Char :=
  if value then ['t', 'r', 'u', 'e'] else ['f', 'a', 'l', 's', 'e']

def nullText : List Char := ['n', 'u', 'l', 'l']

mutual

def compact : Json → List Char
  | .null => nullText
  | .bool value => boolText value
  | .number value => value.text
  | .string text => Quoted.quote text.toList
  | .array items => '[' :: compactItems items
  | .object members => '{' :: compactMembers members

/-- The items of an array after its bracket, and the closing bracket. -/
def compactItems : List Json → List Char
  | [] => [']']
  | [item] => item.compact ++ [']']
  | item :: next :: rest => item.compact ++ ',' :: compactItems (next :: rest)

/-- The members of an object after its brace, and the closing brace. -/
def compactMembers : Members → List Char
  | [] => ['}']
  | [(key, value)] => Quoted.quote key.toList ++ ':' :: (value.compact ++ ['}'])
  | (key, value) :: next :: rest =>
    Quoted.quote key.toList ++ ':' :: (value.compact ++ ',' :: compactMembers (next :: rest))

end

def lineStart (depth : Nat) : List Char :=
  '\n' :: List.replicate (2 * depth) ' '

mutual

/-- The pretty layout of a value whose first character stands at the given depth. -/
def prettyAt (depth : Nat) : Json → List Char
  | .null => nullText
  | .bool value => boolText value
  | .number value => value.text
  | .string text => Quoted.quote text.toList
  | .array [] => ['[', ']']
  | .array (item :: rest) => '[' :: prettyItems depth (item :: rest)
  | .object [] => ['{', '}']
  | .object (member :: rest) => '{' :: prettyMembers depth (member :: rest)

/-- The items of an array, each on its own line, and the closing bracket. -/
def prettyItems (depth : Nat) : List Json → List Char
  | [] => lineStart depth ++ [']']
  | item :: rest =>
    lineStart (depth + 1) ++ prettyAt (depth + 1) item ++
      ((if rest.isEmpty then [] else [',']) ++ prettyItems depth rest)

/-- The members of an object, each on its own line, and the closing brace. -/
def prettyMembers (depth : Nat) : Members → List Char
  | [] => lineStart depth ++ ['}']
  | (key, value) :: rest =>
    lineStart (depth + 1) ++ Quoted.quote key.toList ++ ':' :: ' ' ::
      (prettyAt (depth + 1) value ++
        ((if rest.isEmpty then [] else [',']) ++ prettyMembers depth rest))

end

def pretty (json : Json) : List Char := prettyAt 0 json

def compactString (json : Json) : String := String.ofList json.compact

def prettyString (json : Json) : String := String.ofList json.pretty

end Json

end DocBridge
