import DocBridge.Text.PrintTable
import DocBridge.Text.Table

/-!
# Quoted literals

A text between quotes in which everything that cannot be seen, or could be taken for a part of the
notation, is escaped: quote and backslash by a backslash, a few controls by a letter, and every
other character without a shape of its own by its number in braces.
-/

namespace DocBridge.Literal

/-- Whether a character can be seen by itself. -/
def isVisible (character : Char) : Bool :=
  if character.toNat < 0x80 then 0x20 ≤ character.toNat && character.toNat < 0x7F
  else !isWithin PrintTable.shapeless character

def escape (character : Char) : List Char :=
  match character with
  | '\x00' => ['\\', '0']
  | '\t' => ['\\', 't']
  | '\r' => ['\\', 'r']
  | '\n' => ['\\', 'n']
  | '"' => ['\\', '"']
  | '\\' => ['\\', '\\']
  | other =>
    if isVisible other then [other]
    else '\\' :: 'u' :: '{' :: (Nat.toDigits 16 other.toNat ++ ['}'])

def quote (text : String) : String :=
  String.ofList ('"' :: (text.toList.flatMap escape ++ ['"']))

end DocBridge.Literal
