/-!
# White space

The characters with the Unicode property `White_Space`.
-/

namespace DocBridge

/-- Whether a character is white space. -/
def isWhiteSpace (character : Char) : Bool :=
  let code := character.toNat
  (0x09 ≤ code && code ≤ 0x0D) || code = 0x20 || code = 0x85 || code = 0xA0 || code = 0x1680 ||
    (0x2000 ≤ code && code ≤ 0x200A) || code = 0x2028 || code = 0x2029 || code = 0x202F ||
    code = 0x205F || code = 0x3000

theorem isWhiteSpace_of_isWhitespace {character : Char} (h : character.isWhitespace) :
    isWhiteSpace character := by
  simp only [Char.isWhitespace, Bool.or_eq_true, decide_eq_true_eq] at h
  rcases h with ((rfl | rfl) | rfl) | rfl <;> decide

end DocBridge
