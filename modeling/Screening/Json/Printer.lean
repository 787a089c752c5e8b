import Screening.Json.Basic
import Screening.Decimal.Layout

/-!
# JSON text

A value is written in one of two layouts: compact, without a blank, or
indented by two spaces a level with one item or member to a line, where an
empty array or object stays on its line. A double that is not finite is
written as null.
-/

set_option autoImplicit false

namespace Screening.Json

def hexDigit (n : Nat) : Char := Nat.digitChar n

def escapeChar (c : Char) : List Char :=
  if c = '"' then ['\\', '"']
  else if c = '\\' then ['\\', '\\']
  else if c = '\x08' then ['\\', 'b']
  else if c = '\t' then ['\\', 't']
  else if c = '\n' then ['\\', 'n']
  else if c = '\x0c' then ['\\', 'f']
  else if c = '\r' then ['\\', 'r']
  else if c.toNat < 0x20 then
    ['\\', 'u', '0', '0', hexDigit (c.toNat / 16), hexDigit (c.toNat % 16)]
  else [c]

def stringChars (s : String) : List Char := '"' :: s.toList.flatMap escapeChar ++ ['"']

def intChars (i : Int) : List Char :=
  if i < 0 then '-' :: Nat.toDigits 10 i.natAbs else Nat.toDigits 10 i.natAbs

def floatChars (x : Float) : List Char :=
  if x.isFinite then Decimal.Layout.data.write x else ['n', 'u', 'l', 'l']

def numberChars : Number → List Char
  | .whole w => intChars w.val
  | .float x => floatChars x

def boolChars (b : Bool) : List Char :=
  if b then ['t', 'r', 'u', 'e'] else ['f', 'a', 'l', 's', 'e']

mutual

def compactChars : Json → List Char
  | null => ['n', 'u', 'l', 'l']
  | bool b => boolChars b
  | number n => numberChars n
  | string s => stringChars s
  | array [] => ['[', ']']
  | array (j :: rest) => '[' :: compactChars j ++ compactItems rest
  | object [] => ['{', '}']
  | object ((k, j) :: rest) =>
    '{' :: stringChars k ++ ':' :: compactChars j ++ compactMembers rest

def compactItems : List Json → List Char
  | [] => [']']
  | j :: rest => ',' :: compactChars j ++ compactItems rest

def compactMembers : List (String × Json) → List Char
  | [] => ['}']
  | (k, j) :: rest => ',' :: stringChars k ++ ':' :: compactChars j ++ compactMembers rest

end

def newLine (level : Nat) : List Char := '\n' :: List.replicate (2 * level) ' '

mutual

def indentedChars (level : Nat) : Json → List Char
  | null => ['n', 'u', 'l', 'l']
  | bool b => boolChars b
  | number n => numberChars n
  | string s => stringChars s
  | array [] => ['[', ']']
  | array (j :: rest) =>
    '[' :: newLine (level + 1) ++ indentedChars (level + 1) j ++ indentedItems level rest
  | object [] => ['{', '}']
  | object ((k, j) :: rest) =>
    '{' :: newLine (level + 1) ++ stringChars k ++ ':' :: ' ' :: indentedChars (level + 1) j ++
      indentedMembers level rest

def indentedItems (level : Nat) : List Json → List Char
  | [] => newLine level ++ [']']
  | j :: rest =>
    ',' :: newLine (level + 1) ++ indentedChars (level + 1) j ++ indentedItems level rest

def indentedMembers (level : Nat) : List (String × Json) → List Char
  | [] => newLine level ++ ['}']
  | (k, j) :: rest =>
    ',' :: newLine (level + 1) ++ stringChars k ++ ':' :: ' ' :: indentedChars (level + 1) j ++
      indentedMembers level rest

end

def compact (j : Json) : String := String.ofList (compactChars j)

def indented (j : Json) : String := String.ofList (indentedChars 0 j)

end Screening.Json
