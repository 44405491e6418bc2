import DocBridge.Text.Digit

/-!
# JSON strings

A string is written between quotes.  Quote, backslash and the controls below U+0020 are escaped,
five of the controls by a letter and the others by four hexadecimal digits; all else stands for
itself.
-/

namespace DocBridge.Json.Quoted

/-- What is written for one character. -/
def escape (character : Char) : List Char :=
  match character with
  | '"' => ['\\', '"']
  | '\\' => ['\\', '\\']
  | '\x08' => ['\\', 'b']
  | '\x0c' => ['\\', 'f']
  | '\n' => ['\\', 'n']
  | '\r' => ['\\', 'r']
  | '\t' => ['\\', 't']
  | other =>
    if other.toNat < 0x20 then
      ['\\', 'u', '0', '0', Digit.lower (other.toNat / 16), Digit.lower (other.toNat % 16)]
    else [other]

/-- A text between quotes. -/
def quote (text : List Char) : List Char :=
  '"' :: (text.flatMap escape ++ ['"'])

end DocBridge.Json.Quoted
