import Screening.Json.Decode
import Screening.Text.Case

/-!
# Options

The options say how a field is compared, by its name: as a category, as a
request for members of an index, or as an ordinary value. Names are compared
ignoring the case of the letters A to Z.
-/

set_option autoImplicit false

namespace Screening

structure Options where
  /-- Fields compared as they are written, without normalization. -/
  categorical : List String
  /-- Names of rules that ask for the members of an index. -/
  membership : List String
  /-- The field that holds a record's symbol. -/
  symbolField : String
  deriving DecidableEq, Repr

namespace Options

def standard : Options := ⟨["optionType", "assetType"], ["indexMembership"], "symbol"⟩

def isCategorical (o : Options) (name : String) : Bool :=
  o.categorical.any fun field => Text.sameFolded field name

def isMembership (o : Options) (name : String) : Bool :=
  o.membership.any fun field => Text.sameFolded field name

def toJson (o : Options) : Json :=
  .object [("categoricalFields", .strings o.categorical),
    ("membershipFields", .strings o.membership), ("symbolField", .string o.symbolField)]

structure Draft where
  categorical : Option (List String)
  membership : Option (List String)
  symbolField : Option String

def Draft.complete (d : Draft) : Options :=
  ⟨d.categorical.getD standard.categorical, d.membership.getD standard.membership,
    d.symbolField.getD standard.symbolField⟩

def texts : Json.Nested (List String) := Json.list fun _ => Json.text

def member (levels : Nat) (key : String) (d : Draft) : Json.Reader Draft :=
  if key = "categoricalFields" then do
    return { d with categorical := ← Json.once key d.categorical (texts levels) }
  else if key = "membershipFields" then do
    return { d with membership := ← Json.once key d.membership (texts levels) }
  else if key = "symbolField" then do
    return { d with symbolField := ← Json.once key d.symbolField Json.text }
  else do
    Json.skipMember
    return d

def fromObject : Json.Nested Options := fun levels =>
  Draft.complete <$> Json.members (member levels) ⟨none, none, none⟩

def fromArray : Json.Nested Options := fun levels => do
  match ← Json.element true (texts levels) with
  | none => return standard
  | some categorical => match ← Json.element false (texts levels) with
    | none => return { standard with categorical := categorical }
    | some membership =>
      let symbolField ← Json.element false Json.text
      return Draft.complete ⟨some categorical, some membership, symbolField⟩

def reader : Json.Nested Options := Json.structured "struct FilterOptions" fromArray fromObject

end Options

end Screening
