import Screening.Text.Ranges

/-!
# Blank characters and trimming

Blank is the property White_Space of the character database. It holds of the
no-break spaces and the line separators, and not of the information separators,
the zero width space or the byte order mark.
-/

set_option autoImplicit false

namespace Screening.Text

def blankRanges : Ranges :=
  [(0x9, 0xD), (0x20, 0x20), (0x85, 0x85), (0xA0, 0xA0), (0x1680, 0x1680), (0x2000, 0x200A),
    (0x2028, 0x2029), (0x202F, 0x202F), (0x205F, 0x205F), (0x3000, 0x3000)]

def isBlank (c : Char) : Bool := blankRanges.has c

def trimStart (cs : List Char) : List Char := cs.dropWhile isBlank

def trimEnd (cs : List Char) : List Char := (cs.reverse.dropWhile isBlank).reverse

def trimChars (cs : List Char) : List Char := trimEnd (trimStart cs)

def trim (s : String) : String := String.ofList (trimChars s.toList)

theorem toList_trim (s : String) : (trim s).toList = trimChars s.toList := by
  simp [trim]

end Screening.Text
