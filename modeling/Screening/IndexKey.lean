import Screening.Text.Alphanumeric
import Screening.Text.Case

/-!
# Keys of index names

An index goes by many spellings. Its key is the name in lower case without
anything but letters and numbers, where `sandp` is written `sp`: the ampersand
of `S&P` is already gone, so that `S&P 100` and `s and p 100` have one key.
-/

set_option autoImplicit false

namespace Screening

def compactName (cs : List Char) : List Char := (Text.lowerChars cs).filter Text.isAlphanumeric

def contractAnd : List Char → List Char
  | 's' :: 'a' :: 'n' :: 'd' :: 'p' :: rest => 's' :: 'p' :: contractAnd rest
  | c :: rest => c :: contractAnd rest
  | [] => []

def indexKey (name : String) : String := String.ofList (contractAnd (compactName name.toList))

end Screening
