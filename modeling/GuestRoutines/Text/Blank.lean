/-!
# Blank characters

Settings are trimmed of every character with the `White_Space` property, which is a larger
class than the ASCII blanks: it holds the line and paragraph separators, the no-break space and
the typographic spaces, but not the zero-width ones.

## Main definitions

* `Text.isBlank` — membership in the `White_Space` property
* `Text.trimChars`, `Text.trim` — a text without its outer blanks
-/

namespace GuestRoutines.Text

/-- The code points with the `White_Space` property, as closed ranges in increasing order. -/
def blankRanges : List (Nat × Nat) :=
  [(0x09, 0x0D), (0x20, 0x20), (0x85, 0x85), (0xA0, 0xA0), (0x1680, 0x1680), (0x2000, 0x200A),
    (0x2028, 0x2029), (0x202F, 0x202F), (0x205F, 0x205F), (0x3000, 0x3000)]

/-- A blank is a character with the `White_Space` property. -/
def isBlank (c : Char) : Bool :=
  blankRanges.any fun r => r.1 ≤ c.toNat && c.toNat ≤ r.2

/-- The text without the blanks at its start. -/
def trimStart (cs : List Char) : List Char := cs.dropWhile isBlank

/-- The text without the blanks at its end. -/
def trimEnd (cs : List Char) : List Char := (cs.reverse.dropWhile isBlank).reverse

/-- The text without the blanks at either end. -/
def trimChars (cs : List Char) : List Char := trimEnd (trimStart cs)

/-- The text without the blanks at either end. -/
def trim (s : String) : String := String.ofList (trimChars s.toList)

/-- The text with its ASCII capitals made small; every other character stays. -/
def lowerAscii (s : String) : String := String.ofList (s.toList.map Char.toLower)

/-- The text with its ASCII small letters made capital; every other character stays. -/
def upperAscii (s : String) : String := String.ofList (s.toList.map Char.toUpper)

end GuestRoutines.Text
