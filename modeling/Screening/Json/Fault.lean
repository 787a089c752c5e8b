import Screening.Decimal.Layout
import Screening.Text.Quoted

/-!
# What is wrong with a JSON text

A fault is a cause and, once it is settled, a place in the text. A cause found
while the contents of a value are judged has no place at first: it gets one
where the reader stands when it leaves the enclosing array or object, or keeps
none if there is no such thing. A place is given by what was still unread there,
together with the number of bytes past that point that count as read.
-/

set_option autoImplicit false

namespace Screening.Json

inductive Found where
  | null
  | bool (value : Bool)
  | whole (value : Int)
  | float (value : Float)
  | string (value : String)
  | list
  | map
  deriving Repr

inductive Cause where
  | endInValue
  | endInList
  | endInObject
  | endInString
  | noValue
  | badKeyword
  | noColon
  | noCommaInList
  | noCommaInObject
  | trailingComma
  | keyNotString
  | trailingCharacters
  | badNumber
  | numberOutOfRange
  | tooDeep
  | badEscape
  | loneSurrogate
  | cutSurrogate
  | controlCharacter
  | wrongType (found : Found) (expected : String)
  | wrongValue (found : Found) (expected : String)
  | wrongLength (length : Nat) (expected : String)
  | missingField (name : String)
  | repeatedField (name : String)
  | unknownVariant (name : String) (known : List String)
  | noVariant (type : String)
  deriving Repr

structure Place where
  unread : List Char
  beyond : Nat
  deriving Repr

inductive Fault where
  | placed (cause : Cause) (place : Place)
  | floating (cause : Cause) (unread : List Char)
  deriving Repr

def Fault.settle (f : Fault) (leave : List Char → List Char) : Fault :=
  match f with
  | .placed cause place => .placed cause place
  | .floating cause unread => .placed cause ⟨leave unread, 0⟩

def floatText (x : Float) : String := String.ofList (Decimal.Layout.data.write x)

def Found.text : Found → String
  | .null => "null"
  | .bool b => "boolean `" ++ (if b then "true" else "false") ++ "`"
  | .whole i => "integer `" ++ toString i ++ "`"
  | .float x => "floating point `" ++ floatText x ++ "`"
  | .string s => "string " ++ Text.quote s
  | .list => "sequence"
  | .map => "map"

def variantNames : List String → String
  | [a, b] => "expected `" ++ a ++ "` or `" ++ b ++ "`"
  | names => "expected one of " ++ ", ".intercalate (names.map fun n => "`" ++ n ++ "`")

def Cause.message : Cause → String
  | .endInValue => "EOF while parsing a value"
  | .endInList => "EOF while parsing a list"
  | .endInObject => "EOF while parsing an object"
  | .endInString => "EOF while parsing a string"
  | .noValue => "expected value"
  | .badKeyword => "expected ident"
  | .noColon => "expected `:`"
  | .noCommaInList => "expected `,` or `]`"
  | .noCommaInObject => "expected `,` or `\x7d`"
  | .trailingComma => "trailing comma"
  | .keyNotString => "key must be a string"
  | .trailingCharacters => "trailing characters"
  | .badNumber => "invalid number"
  | .numberOutOfRange => "number out of range"
  | .tooDeep => "recursion limit exceeded"
  | .badEscape => "invalid escape"
  | .loneSurrogate => "lone leading surrogate in hex escape"
  | .cutSurrogate => "unexpected end of hex escape"
  | .controlCharacter => "control character (\\u0000-\\u001F) found while parsing a string"
  | .wrongType found expected => "invalid type: " ++ found.text ++ ", expected " ++ expected
  | .wrongValue found expected => "invalid value: " ++ found.text ++ ", expected " ++ expected
  | .wrongLength length expected =>
    "invalid length " ++ toString length ++ ", expected " ++ expected
  | .missingField name => "missing field `" ++ name ++ "`"
  | .repeatedField name => "duplicate field `" ++ name ++ "`"
  | .unknownVariant name known => "unknown variant `" ++ name ++ "`, " ++ variantNames known
  | .noVariant type => "data did not match any variant of untagged enum " ++ type

structure Position where
  line : Nat
  column : Nat
  deriving DecidableEq, Repr

def Position.after (bytes : List UInt8) : Position :=
  ⟨1 + bytes.count 10, (bytes.reverse.takeWhile (· != 10)).length⟩

def byteSize (cs : List Char) : Nat := (cs.map Char.utf8Size).foldr (· + ·) 0

def Place.position (place : Place) (text : List Char) : Position :=
  let read := byteSize text - byteSize place.unread + place.beyond
  Position.after ((String.ofList text).toUTF8.toList.take read)

structure ReadError where
  cause : Cause
  position : Option Position
  deriving Repr

def Fault.error (f : Fault) (text : List Char) : ReadError :=
  match f with
  | .placed cause place => ⟨cause, some (place.position text)⟩
  | .floating cause _ => ⟨cause, none⟩

def ReadError.message (e : ReadError) : String :=
  match e.position with
  | none => e.cause.message
  | some p =>
    e.cause.message ++ " at line " ++ toString p.line ++ " column " ++ toString p.column

end Screening.Json
