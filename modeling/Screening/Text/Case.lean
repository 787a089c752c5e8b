import Screening.Text.CaseTable

/-!
# Letter case

Two notions of case are kept apart. Names of fields and keywords are compared
ignoring the case of the letters A to Z only. Symbols and index names are
mapped character by character with the full mappings of the character
database, where one character may become several.
-/

set_option autoImplicit false

namespace Screening.Text

def foldCase (c : Char) : Char := c.toLower

def sameFolded (s t : String) : Bool := s.toList.map foldCase == t.toList.map foldCase

def shiftCase (runs : List CaseRun) (c : Char) : Char :=
  match runs.find? (·.covers c.toNat) with
  | some run => run.apply c.toNat
  | none => c

def lowerChar (c : Char) : List Char :=
  if c = '\u0130' then ['i', '\u0307'] else [shiftCase lowerRuns c]

def upperChar (c : Char) : List Char :=
  match upperExpansions.lookup c.toNat with
  | some codes => codes.map Char.ofNat
  | none => [shiftCase upperRuns c]

def lowerChars (cs : List Char) : List Char := cs.flatMap lowerChar

def upperChars (cs : List Char) : List Char := cs.flatMap upperChar

def upper (s : String) : String := String.ofList (upperChars s.toList)

theorem sameFolded_iff (s t : String) :
    sameFolded s t = true ↔ s.toList.map foldCase = t.toList.map foldCase := by
  simp [sameFolded]

end Screening.Text
