import Screening.Decimal.Literal
import Screening.Proofs.Text

/-!
# The grammar of literals

A literal is digits with a point among them or without one, a power of ten after them, and a
sign before, or it is one of three words. It is written in one way only: the digits go as far
as they can, so the point and the power of ten stand where the reader looks for them.
-/

set_option autoImplicit false

namespace Screening.Decimal

inductive WritesSign : List Char → Bool → Prop
  | absent : WritesSign [] false
  | plus : WritesSign ['+'] false
  | minus : WritesSign ['-'] true

def AllDigits (ds : List Char) : Prop := ds.all Char.isDigit = true

inductive WritesExponent : List Char → ℤ → Prop
  | absent : WritesExponent [] 0
  | present (e : Char) (sign ds : List Char) (negative : Bool) (he : e = 'e' ∨ e = 'E')
      (hsign : WritesSign sign negative) (hne : ds ≠ []) (hds : AllDigits ds) :
      WritesExponent (e :: (sign ++ ds)) ((if negative then -1 else 1) * natOfDigits ds)

/-- Digits, the number they write without a point, and how many of them stand after it. -/
inductive WritesDecimal : List Char → ℕ → ℕ → Prop
  | whole (ds : List Char) (hne : ds ≠ []) (hds : AllDigits ds) :
      WritesDecimal ds (natOfDigits ds) 0
  | pointed (ds fs : List Char) (hne : ds ≠ [] ∨ fs ≠ []) (hds : AllDigits ds)
      (hfs : AllDigits fs) : WritesDecimal (ds ++ '.' :: fs) (natOfDigits (ds ++ fs)) fs.length

inductive WritesUnsigned (negative : Bool) : List Char → Literal → Prop
  | number (ds es : List Char) (n k : ℕ) (e : ℤ) (hd : WritesDecimal ds n k)
      (he : WritesExponent es e) : WritesUnsigned negative (ds ++ es) (.finite negative n (e - k))
  | infinite (cs : List Char)
      (h : cs.map Char.toLower = ['i', 'n', 'f'] ∨
        cs.map Char.toLower = ['i', 'n', 'f', 'i', 'n', 'i', 't', 'y']) :
      WritesUnsigned negative cs (.infinite negative)
  | nan (cs : List Char) (h : cs.map Char.toLower = ['n', 'a', 'n']) :
      WritesUnsigned negative cs .nan

inductive Writes : List Char → Literal → Prop
  | signed (sign cs : List Char) (negative : Bool) (l : Literal) (hsign : WritesSign sign negative)
      (h : WritesUnsigned negative cs l) : Writes (sign ++ cs) l

theorem AllDigits.mem {ds : List Char} (h : AllDigits ds) (c : Char) (hc : c ∈ ds) :
    c.isDigit = true :=
  List.all_eq_true.mp h c hc

theorem allDigits_takeWhile (cs : List Char) : AllDigits (cs.takeWhile Char.isDigit) :=
  List.all_takeWhile

theorem AllDigits.takeWhile_append {ds : List Char} (h : AllDigits ds) (rest : List Char)
    (hrest : rest.head?.any Char.isDigit = false) :
    (ds ++ rest).takeWhile Char.isDigit = ds := by
  rw [List.takeWhile_append_of_pos h.mem]
  cases rest with
  | nil => simp
  | cons c rest =>
    rw [List.takeWhile_cons_of_neg (by simpa using hrest), List.append_nil]

theorem AllDigits.dropWhile_append {ds : List Char} (h : AllDigits ds) (rest : List Char)
    (hrest : rest.head?.any Char.isDigit = false) :
    (ds ++ rest).dropWhile Char.isDigit = rest := by
  rw [List.dropWhile_append_of_pos h.mem]
  cases rest with
  | nil => rfl
  | cons c rest => rw [List.dropWhile_cons_of_neg (by simpa using hrest)]

theorem WritesExponent.head {es : List Char} {e : ℤ} (h : WritesExponent es e) :
    es.head?.any Char.isDigit = false ∧ es.head? ≠ some '.' := by
  cases h with
  | absent => decide
  | present c sign ds negative he hsign hne hds =>
    rcases he with rfl | rfl
    · exact ⟨rfl, fun h => nomatch h⟩
    · exact ⟨rfl, fun h => nomatch h⟩

theorem splitDigits_append (ds es : List Char) (n k : ℕ) (e : ℤ) (hd : WritesDecimal ds n k)
    (he : WritesExponent es e) : ∃ whole fraction, splitDigits (ds ++ es) = (whole, fraction, es) ∧
      ¬ (whole = [] ∧ fraction = []) ∧ natOfDigits (whole ++ fraction) = n ∧
        fraction.length = k := by
  obtain ⟨hdigit, hpoint⟩ := he.head
  cases hd with
  | whole ds hne hds =>
    refine ⟨ds, [], ?_, fun h => hne h.1, by rw [List.append_nil], rfl⟩
    rw [splitDigits, hds.takeWhile_append es hdigit, hds.dropWhile_append es hdigit]
    split
    · exact absurd rfl hpoint
    · rfl
  | pointed ds fs hne hds hfs =>
    refine ⟨ds, fs, ?_, by tauto, rfl, rfl⟩
    rw [splitDigits, List.append_assoc, List.cons_append, hds.takeWhile_append _ rfl,
      hds.dropWhile_append _ rfl]
    show (ds, _, _) = _
    rw [hfs.takeWhile_append es hdigit, hfs.dropWhile_append es hdigit]

/-- A text is its digits, the point among them if there is one, and what follows. -/
theorem writesDecimal_of_splitDigits (cs whole fraction rest : List Char)
    (h : splitDigits cs = (whole, fraction, rest)) (hne : ¬ (whole = [] ∧ fraction = [])) :
    ∃ ds, cs = ds ++ rest ∧
      WritesDecimal ds (natOfDigits (whole ++ fraction)) fraction.length := by
  have hcut := List.takeWhile_append_dropWhile (p := Char.isDigit) (l := cs)
  unfold splitDigits at h
  split at h
  · next t hdrop =>
    cases h
    refine ⟨cs.takeWhile Char.isDigit ++ '.' :: t.takeWhile Char.isDigit, ?_,
      .pointed _ _ (by tauto) (allDigits_takeWhile cs) (allDigits_takeWhile t)⟩
    rw [List.append_assoc, List.cons_append, List.takeWhile_append_dropWhile, ← hdrop, hcut]
  · cases h
    refine ⟨cs.takeWhile Char.isDigit, hcut.symm, ?_⟩
    rw [List.append_nil]
    exact .whole _ (by tauto) (allDigits_takeWhile cs)

def Unsigned (cs : List Char) : Prop := cs.head? ≠ some '-' ∧ cs.head? ≠ some '+'

theorem AllDigits.unsigned {ds : List Char} (h : AllDigits ds) : Unsigned ds := by
  cases ds with
  | nil => exact ⟨nofun, nofun⟩
  | cons d ds =>
    have hd := h.mem d List.mem_cons_self
    constructor <;>
    · intro hc
      cases hc
      cases hd

/-- Every text is a sign, or none, before a text that starts with none. -/
theorem exists_sign (cs : List Char) :
    ∃ sign rest negative, cs = sign ++ rest ∧ WritesSign sign negative ∧
      (sign = [] → Unsigned rest) := by
  by_cases hminus : cs.head? = some '-'
  · obtain ⟨rest, rfl⟩ := List.head?_eq_some_iff.mp hminus
    exact ⟨['-'], rest, true, rfl, .minus, nofun⟩
  by_cases hplus : cs.head? = some '+'
  · obtain ⟨rest, rfl⟩ := List.head?_eq_some_iff.mp hplus
    exact ⟨['+'], rest, false, rfl, .plus, nofun⟩
  exact ⟨[], cs, false, rfl, .absent, fun _ => ⟨hminus, hplus⟩⟩

theorem readExponent?_signed (c : Char) (sign ds : List Char) (negative : Bool)
    (hsign : WritesSign sign negative) (hds : sign = [] → Unsigned ds) :
    readExponent? (c :: (sign ++ ds)) =
      if c = 'e' ∨ c = 'E' then
        if ds ≠ [] ∧ ds.all Char.isDigit then
          some ((if negative then -1 else 1 : ℤ) * natOfDigits ds)
        else none
      else none := by
  cases hsign with
  | absent =>
    obtain ⟨hminus, hplus⟩ := hds rfl
    rw [List.nil_append, readExponent?]
    · rfl
    · rintro _ rfl
      exact hminus rfl
    · rintro _ rfl
      exact hplus rfl
  | plus => rfl
  | minus => rfl

theorem read?_signed (sign cs : List Char) (negative : Bool) (hsign : WritesSign sign negative)
    (hcs : sign = [] → Unsigned cs) :
    Literal.read? (sign ++ cs) = readUnsigned? negative cs := by
  cases hsign with
  | absent =>
    obtain ⟨hminus, hplus⟩ := hcs rfl
    rw [List.nil_append, Literal.read?]
    · rintro _ rfl
      exact hminus rfl
    · rintro _ rfl
      exact hplus rfl
  | plus => rfl
  | minus => rfl

theorem readExponent?_eq_some_iff (cs : List Char) (e : ℤ) :
    readExponent? cs = some e ↔ WritesExponent cs e := by
  constructor
  · intro h
    cases cs with
    | nil =>
      cases h
      exact .absent
    | cons c rest =>
      obtain ⟨sign, ds, negative, rfl, hsign, hds⟩ := exists_sign rest
      rw [readExponent?_signed c sign ds negative hsign hds] at h
      split at h
      · next hc =>
        split at h
        · next hdigits =>
          cases h
          exact .present c sign ds negative hc hsign hdigits.1 hdigits.2
        · cases h
      · cases h
  · rintro (_ | ⟨c, sign, ds, negative, hc, hsign, hne, hds⟩)
    · rfl
    · rw [readExponent?_signed c sign ds negative hsign fun _ => hds.unsigned, if_pos hc,
        if_pos ⟨hne, hds⟩]

theorem readNumber?_eq_some_iff (negative : Bool) (cs : List Char) (l : Literal) :
    readNumber? negative cs = some l ↔
      ∃ ds es n k e, cs = ds ++ es ∧ WritesDecimal ds n k ∧ WritesExponent es e ∧
        l = .finite negative n (e - k) := by
  constructor
  · intro h
    unfold readNumber? at h
    split at h
    next whole fraction rest hsplit =>
    split at h
    · cases h
    · next hne =>
      obtain ⟨e, he, rfl⟩ := Option.map_eq_some_iff.mp h
      obtain ⟨ds, rfl, hd⟩ := writesDecimal_of_splitDigits cs whole fraction rest hsplit hne
      exact ⟨ds, rest, _, _, e, rfl, hd, (readExponent?_eq_some_iff rest e).mp he, rfl⟩
  · rintro ⟨ds, es, n, k, e, rfl, hd, he, rfl⟩
    obtain ⟨whole, fraction, hsplit, hne, rfl, rfl⟩ := splitDigits_append ds es n k e hd he
    simp only [readNumber?, hsplit, if_neg hne, (readExponent?_eq_some_iff es e).mpr he,
      Option.map_some]

theorem readNumber?_of_isAlpha (negative : Bool) (c : Char) (cs : List Char)
    (hc : c.isAlpha = true) : readNumber? negative (c :: cs) = none := by
  have hdigit := Text.not_isDigit_of_isAlpha c hc
  have hsplit : splitDigits (c :: cs) = ([], [], c :: cs) := by
    rw [splitDigits, List.takeWhile_cons_of_neg hdigit, List.dropWhile_cons_of_neg hdigit]
    split
    · next h =>
      cases h
      cases hc
    · rfl
  simp [readNumber?, hsplit]

theorem readWord?_eq (negative : Bool) (cs : List Char) :
    readWord? negative cs =
      if cs.map Char.toLower = ['i', 'n', 'f'] ∨
          cs.map Char.toLower = ['i', 'n', 'f', 'i', 'n', 'i', 't', 'y'] then
        some (.infinite negative)
      else if cs.map Char.toLower = ['n', 'a', 'n'] then some .nan else none := by
  simp only [readWord?, String.ofList_eq]
  rfl

/-- A word starts with a letter, so it is not taken for a number. -/
theorem readUnsigned?_word (negative : Bool) (cs : List Char) (c : Char) (rest : List Char)
    (h : cs.map Char.toLower = c :: rest) (hc : c.isAlpha = true) :
    readUnsigned? negative cs = readWord? negative cs := by
  cases cs with
  | nil => cases h
  | cons d ds =>
    cases h
    rw [Char.isAlpha_toLower_eq_isAlpha] at hc
    rw [readUnsigned?, readNumber?_of_isAlpha negative d ds hc, Option.none_or]

theorem readUnsigned?_eq_some_iff (negative : Bool) (cs : List Char) (l : Literal) :
    readUnsigned? negative cs = some l ↔ WritesUnsigned negative cs l := by
  constructor
  · intro h
    rcases Option.or_eq_some_iff.mp h with hnumber | ⟨-, hword⟩
    · obtain ⟨ds, es, n, k, e, rfl, hd, he, rfl⟩ :=
        (readNumber?_eq_some_iff negative cs l).mp hnumber
      exact .number ds es n k e hd he
    · rw [readWord?_eq] at hword
      split_ifs at hword with hinf hnan
      · cases hword
        exact .infinite cs hinf
      · cases hword
        exact .nan cs hnan
  · rintro (⟨ds, es, n, k, e, hd, he⟩ | ⟨cs, h | h⟩ | ⟨cs, h⟩)
    · rw [readUnsigned?, (readNumber?_eq_some_iff negative _ _).mpr
        ⟨ds, es, n, k, e, rfl, hd, he, rfl⟩, Option.some_or]
    · rw [readUnsigned?_word negative cs _ _ h rfl, readWord?_eq, if_pos (.inl h)]
    · rw [readUnsigned?_word negative cs _ _ h rfl, readWord?_eq, if_pos (.inr h)]
    · rw [readUnsigned?_word negative cs _ _ h rfl, readWord?_eq, h]
      rfl

theorem WritesDecimal.unsigned {ds : List Char} {n k : ℕ} (h : WritesDecimal ds n k)
    (es : List Char) : Unsigned (ds ++ es) := by
  cases h with
  | whole ds hne hds =>
    obtain ⟨d, ds, rfl⟩ := List.exists_cons_of_ne_nil hne
    exact hds.unsigned
  | pointed ds fs hne hds hfs =>
    cases ds with
    | nil => exact ⟨nofun, nofun⟩
    | cons d ds => exact hds.unsigned

theorem unsigned_of_word (cs : List Char) (c : Char) (rest : List Char)
    (h : cs.map Char.toLower = c :: rest) (hc : c.isAlpha = true) : Unsigned cs := by
  cases cs with
  | nil => cases h
  | cons d ds =>
    cases h
    constructor <;>
    · intro hd
      cases hd
      cases hc

theorem WritesUnsigned.unsigned {negative : Bool} {cs : List Char} {l : Literal}
    (h : WritesUnsigned negative cs l) : Unsigned cs := by
  rcases h with ⟨ds, es, n, k, e, hd, he⟩ | ⟨cs, h | h⟩ | ⟨cs, h⟩
  · exact hd.unsigned es
  · exact unsigned_of_word cs _ _ h rfl
  · exact unsigned_of_word cs _ _ h rfl
  · exact unsigned_of_word cs _ _ h rfl

/-- A literal is read as what it writes, and nothing else is read. -/
theorem read?_eq_some_iff (cs : List Char) (l : Literal) :
    Literal.read? cs = some l ↔ Writes cs l := by
  constructor
  · intro h
    obtain ⟨sign, rest, negative, rfl, hsign, hrest⟩ := exists_sign cs
    rw [read?_signed sign rest negative hsign hrest] at h
    exact .signed sign rest negative l hsign ((readUnsigned?_eq_some_iff negative rest l).mp h)
  · rintro ⟨sign, cs, negative, l, hsign, h⟩
    rw [read?_signed sign cs negative hsign fun _ => h.unsigned]
    exact (readUnsigned?_eq_some_iff negative cs l).mpr h

def WritesFinite (cs : List Char) (x : Float) : Prop :=
  ∃ l, Writes cs l ∧ l.toFloat = x ∧ x.isFinite = true

theorem WritesFinite.isFinite {cs : List Char} {x : Float} (h : WritesFinite cs x) :
    x.isFinite = true := by
  obtain ⟨-, -, -, hx⟩ := h
  exact hx

theorem readFinite?_eq_some_iff (cs : List Char) (x : Float) :
    readFinite? cs = some x ↔ WritesFinite cs x := by
  simp only [readFinite?, Option.filter_eq_some_iff, Option.map_eq_some_iff, read?_eq_some_iff]
  constructor
  · rintro ⟨⟨l, hl, rfl⟩, hx⟩
    exact ⟨l, hl, rfl, hx⟩
  · rintro ⟨l, hl, rfl, hx⟩
    exact ⟨⟨l, hl, rfl⟩, hx⟩

end Screening.Decimal
