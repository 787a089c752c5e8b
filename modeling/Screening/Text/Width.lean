import Screening.Text.Emoji
import Screening.Text.WidthTable

/-!
# Display width

The number of terminal columns a text takes. The width of a character depends on
what follows it: an emoji sequence is as wide as a single emoji, a selector
changes the width of the character before it, and some letters are written as
one. A text is therefore measured from its end.
-/

set_option autoImplicit false

namespace Screening.Text

inductive Kind where
  | other
  | lineFeed
  | emoji
  | modifier
  | indicator
  | indicators
  | joinedEmoji
  | joinedKeycap
  | joinedIndicator
  | joinedFlag
  | joinedFlagAfterOne
  | joinedTags (letters : Nat)
  | alef
  | lamed
  | coengLetter
  | ya
  | yaWithVowel
  | tifinagh
  | tifinaghWithJoiner
  | toneLetter
  | orkhonI
  | vowelE
  | vowelAi
  deriving DecidableEq, Repr

def Kind.isLetter : Kind → Bool
  | alef | lamed | coengLetter | ya | yaWithVowel | tifinagh | tifinaghWithJoiner | toneLetter
  | orkhonI | vowelE | vowelAi => true
  | _ => false

inductive Style where
  | text
  | emoji
  | wide
  deriving DecidableEq, Repr

def Style.ofSelector? (c : Char) : Option Style :=
  if c = '\ufe0e' then some text
  else if c = '\ufe0f' then some emoji
  else if c = '\ufe01' then some wide
  else none

structure Following where
  kind : Kind := .other
  joined : Bool := false
  style : Option Style := none
  deriving DecidableEq, Repr

def isLam (c : Char) : Bool :=
  Ranges.has [(0x644, 0x644), (0x6B5, 0x6B8), (0x76A, 0x76A), (0x8A6, 0x8A6), (0x8C7, 0x8C7)] c

def isAlef (c : Char) : Bool :=
  Ranges.has [(0x622, 0x623), (0x625, 0x625), (0x627, 0x627), (0x671, 0x673), (0x675, 0x675),
    (0x773, 0x774), (0x870, 0x882)] c

def isCoengLetter (c : Char) : Bool :=
  Ranges.has [(0x1780, 0x1782), (0x1784, 0x1787), (0x1789, 0x178C), (0x178E, 0x1793),
    (0x1795, 0x1798), (0x179B, 0x179D), (0x17A0, 0x17A0), (0x17A2, 0x17A2), (0x17A7, 0x17A7),
    (0x17AB, 0x17AC), (0x17AF, 0x17AF)] c

def isTifinagh (c : Char) : Bool := Ranges.has [(0x2D31, 0x2D65), (0x2D6F, 0x2D6F)] c

def isTone (c : Char) : Bool := Ranges.has [(0xA4F8, 0xA4FB)] c

def isSecondTone (c : Char) : Bool := Ranges.has [(0xA4FC, 0xA4FD)] c

def isIgnoredMark (c : Char) : Bool :=
  Ranges.has [(0x34F, 0x34F), (0x17B4, 0x17B5), (0x180B, 0x180D), (0x180F, 0x180F),
    (0xFE00, 0xFE0F), (0xE0100, 0xE01EF)] c

def isTransparent (c : Char) : Bool := zeroWidthRanges.has c && !separatingRanges.has c

def isQuotationMark (c : Char) : Bool := c ∈ ['\u2018', '\u2019', '\u201c', '\u201d']

def charWidth (c : Char) : Nat :=
  if c.toNat ≤ 0xA0 then 1
  else if c = '\u17a4' then 2
  else if c = '\u17d8' then 3
  else if zeroWidthRanges.has c then 0
  else if wideRanges.has c then 2
  else 1

namespace Kind

def ofChar (c : Char) : Kind :=
  if c.toNat ≤ 0xA0 then if c = '\n' then lineFeed else other
  else if isAlef c then alef
  else if c = '\u05dc' then lamed
  else if isCoengLetter c then coengLetter
  else if c = '\u1a10' then ya
  else if isTifinagh c then tifinagh
  else if isSecondTone c then toneLetter
  else if c = Char.ofNat 0x10C03 then orkhonI
  else if c = Char.ofNat 0x16D67 then vowelE
  else if c = Char.ofNat 0x16D68 then vowelAi
  else if isModifier c then modifier
  else if isRegionalIndicator c then indicator
  else if isEmoji c then emoji
  else other

/-- Emoji sequences before what follows. A joiner makes a single emoji of the two
emoji it stands between, and the width of the second one counts for both. -/
def beforeEmoji? (c : Char) : Kind → Option (Int × Kind)
  | modifier =>
    if isModifierBase c then some (0, emoji)
    else if c = joiner then some (0, joinedEmoji) else none
  | indicator => if isRegionalIndicator c then some (1, indicators) else none
  | indicators =>
    if isRegionalIndicator c then some (1, indicators)
    else if c = joiner then some (0, joinedEmoji) else none
  | emoji => if c = joiner then some (0, joinedEmoji) else none
  | joinedEmoji =>
    if c = keycap then some (0, joinedKeycap)
    else if isRegionalIndicator c then some (1, joinedIndicator)
    else if isModifier c then some (0, modifier)
    else if c = cancelTag then some (0, joinedTags 0)
    else if isEmoji c then some (0, emoji) else none
  | joinedIndicator => if isRegionalIndicator c then some (-1, joinedFlag) else none
  | joinedFlag =>
    if isRegionalIndicator c then some (3, joinedFlagAfterOne)
    else if c = joiner then some (0, joinedEmoji) else none
  | joinedFlagAfterOne =>
    if isRegionalIndicator c then some (-1, joinedFlag)
    else if c = joiner then some (0, joinedEmoji) else none
  | joinedTags letters =>
    if isTagLetter c then some (0, joinedTags (letters + 1))
    else if c = blackFlag ∧ 3 ≤ letters ∧ letters ≤ 6 then some (0, emoji) else none
  | _ => none

def beforeLetter? (c : Char) (joined : Bool) : Kind → Option (Int × Kind)
  -- Some letters are written as one only if a joiner stands between.
  | alef => if isLam c then some (0, other) else if isTransparent c then some (0, alef) else none
  | lamed => if joined ∧ c = '\u05d0' then some (0, other) else none
  | coengLetter => if c = '\u17d2' then some (-1, other) else none
  | ya => if joined ∧ c = '\u1a17' then some (0, yaWithVowel) else none
  | yaWithVowel => if c = '\u1a15' then some (0, other) else none
  | tifinagh =>
    if c = '\u2d7f' then some (1, tifinaghWithJoiner)
    else if joined && isTifinagh c then some (0, other) else none
  | tifinaghWithJoiner => if isTifinagh c then some (-1, other) else none
  | toneLetter => if isTone c then some (0, other) else none
  | orkhonI => if joined ∧ c = Char.ofNat 0x10C32 then some (0, other) else none
  | vowelE =>
    if c ∈ [Char.ofNat 0x16D63, Char.ofNat 0x16D69] then some (0, other)
    else if c = Char.ofNat 0x16D67 then some (0, vowelAi)
    else if c = Char.ofNat 0x16D68 then some (1, vowelE) else none
  | vowelAi => if c = Char.ofNat 0x16D63 then some (0, other) else none
  | _ => none

end Kind

namespace Following

def select (f : Following) (style : Style) : Following :=
  -- A selector belongs to a letter, or to an emoji that something is joined to, without hiding
  -- it.
  if f.kind.isLetter || (style = .emoji && (f.kind = .joinedEmoji || f.kind = .joinedKeycap)) then
    { f with style := some style }
  else { style := some style }

def styled? (f : Following) (c : Char) : Option (Int × Following) :=
  match f.style with
  | some .emoji =>
    if isPresentationBase c then some (if f.kind.isLetter || f.kind = .other then 2 else 0,
      { kind := .emoji })
    else none
  | some .text =>
    if isPresentationBase c && isEmoji c && !isEnclosedIdeograph c then some (1, {}) else none
  | some .wide => if isQuotationMark c then some (2, {}) else none
  | none => none

def unstyled (f : Following) : Following :=
  if f.style.isNone || f.kind.isLetter then { f with style := none } else {}

def changed? (f : Following) (c : Char) : Option (Int × Following) :=
  if f.kind.isLetter && f.kind ≠ .alef && c = joiner then some (0, { f with joined := true })
  else if f.kind.isLetter && f.kind ≠ .alef && isIgnoredMark c then some (0, f)
  else ((f.kind.beforeLetter? c f.joined).or (f.kind.beforeEmoji? c)).map fun r =>
    (r.1, { kind := r.2 })

def before (f : Following) (c : Char) : Int × Following :=
  match f.styled? c with
  | some r => r
  | none =>
    let f := f.unstyled
    if c = '\r' ∧ f.kind = .lineFeed then (0, {})
    else match Style.ofSelector? c with
      | some style => (0, f.select style)
      | none => (f.changed? c).getD (charWidth c, { kind := .ofChar c })

end Following

def width (s : String) : Nat :=
  (s.toList.foldr (fun c (r : Int × Following) =>
    let (w, f) := r.2.before c
    (r.1 + w, f)) (0, {})).1.toNat

end Screening.Text
