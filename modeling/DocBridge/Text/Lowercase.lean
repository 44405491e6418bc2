import DocBridge.Text.CaseTable

/-!
# Lowercase

The full lowercase of a text.  Most characters have their own; a capital sigma at the end of a
word becomes a final sigma, and a capital I with a dot above keeps its dot as a combining mark.
-/

namespace DocBridge

namespace Lowercase

/-- The lowercase of one character where its neighbours do not matter. -/
def ofChar (character : Char) : List Char :=
  if character.toNat < 0x80 then [character.toLower]
  else if character = 'İ' then ['i', '\u0307']
  else [(Shift.find? CaseTable.shifts character).getD character]

/-- Whether the first character that is not ignorable exists and is cased. -/
def meetsCased (text : List Char) : Bool :=
  match text.dropWhile (isWithin CaseTable.ignorable) with
  | character :: _ => isWithin CaseTable.cased character
  | [] => false

/-- The lowercase of a text whose preceding characters are given in reverse. -/
def after (before : List Char) : List Char → List Char
  | [] => []
  | character :: rest =>
    let lowered :=
      if character = 'Σ' then
        if meetsCased before && !meetsCased rest then ['ς'] else ['σ']
      else ofChar character
    lowered ++ after (character :: before) rest

end Lowercase

def lowercase (text : String) : String :=
  String.ofList (Lowercase.after [] text.toList)

end DocBridge
