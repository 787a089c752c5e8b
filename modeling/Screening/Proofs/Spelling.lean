import Screening.Json.Printer
import Screening.Proofs.Sources

/-!
# Written strings and numbers

A string is read again from its text, whatever its characters are, and so is a
whole number of sixty-four bits. A double need not be: its text says which
double is meant, but the reader of numbers may arrive at another.
-/

set_option autoImplicit false

namespace Screening

namespace Json

theorem hexValue_hexDigit : ∀ n < 16, hexValue? (hexDigit n) = some n := by decide

theorem escapeChar_ne_nil (c : Char) : escapeChar c ≠ [] := by
  unfold escapeChar
  repeat' split
  all_goals simp

/-- The six characters of a control character that has no letter. -/
theorem unicodeEscape_control (c : Char) (hc : c.toNat < 0x20) (s : List Char) :
    unicodeEscape ('0' :: '0' :: hexDigit (c.toNat / 16) :: hexDigit (c.toNat % 16) :: s) =
      .ok (c, s) := by
  have hhigh := hexValue_hexDigit (c.toNat / 16) (by omega)
  have hlow := hexValue_hexDigit (c.toNat % 16) (by omega)
  have hzero : hexValue? '0' = some 0 := rfl
  have hvalue : hexFour? '0' '0' (hexDigit (c.toNat / 16)) (hexDigit (c.toNat % 16)) =
      some c.toNat := by
    simp only [hexFour?, hzero, hhigh, hlow, Option.bind_eq_bind, Option.bind_some]
    exact congrArg some (by omega)
  have hescape : hexEscape ('0' :: '0' :: hexDigit (c.toNat / 16) :: hexDigit (c.toNat % 16) :: s)
      = .ok (c.toNat, s) := by
    simp only [hexEscape, hvalue]
  have hnotLow : isLowSurrogate c.toNat = false := by
    simp [isLowSurrogate]
    omega
  have hnotHigh : isHighSurrogate c.toNat = false := by
    simp [isHighSurrogate]
    omega
  rw [unicodeEscape, bind_run, hescape]
  simp only [hnotLow, hnotHigh, Char.ofNat_toNat]
  rfl

/-- One character of a string takes one turn, whether it is escaped or not. -/
theorem stringRest_escapeChar (tick c : Char) (clock s : List Char) :
    stringRest (tick :: clock) (escapeChar c ++ s) =
      ((c :: ·) <$> stringRest clock : Reader (List Char)) s := by
  have hescaped (t : List Char) (h : escape (t ++ s) = .ok (c, s)) :
      stringRest (tick :: clock) ('\\' :: t ++ s) =
        ((c :: ·) <$> stringRest clock : Reader (List Char)) s := by
    have hrun := bind_run escape (fun d => (d :: ·) <$> stringRest clock) (t ++ s)
    rw [h] at hrun
    exact hrun
  unfold escapeChar
  split
  · next h => exact h ▸ hescaped ['"'] (by rw [h]; rfl)
  split
  · next h => exact h ▸ hescaped ['\\'] (by rw [h]; rfl)
  split
  · next h => exact h ▸ hescaped ['b'] (by rw [h]; rfl)
  split
  · next h => exact h ▸ hescaped ['t'] (by rw [h]; rfl)
  split
  · next h => exact h ▸ hescaped ['n'] (by rw [h]; rfl)
  split
  · next h => exact h ▸ hescaped ['f'] (by rw [h]; rfl)
  split
  · next h => exact h ▸ hescaped ['r'] (by rw [h]; rfl)
  split
  · next h => exact hescaped _ (unicodeEscape_control c h s)
  · next hq hb _ _ _ _ _ hcontrol =>
    show stringRest (tick :: clock) (c :: s) = _
    simp only [stringRest, if_neg hq, if_neg hb, if_neg hcontrol]
    rfl

theorem stringRest_written (cs clock u : List Char) (h : cs.length < clock.length) :
    stringRest clock (cs.flatMap escapeChar ++ '"' :: u) = .ok (cs, u) := by
  induction cs generalizing clock with
  | nil =>
    cases clock with
    | nil => simp at h
    | cons tick clock => rfl
  | cons c cs ih =>
    cases clock with
    | nil => simp at h
    | cons tick clock =>
      have hrest := ih clock (by simpa using h)
      rw [List.flatMap_cons, List.append_assoc, stringRest_escapeChar]
      exact (map_eq_ok_iff (c :: ·) (stringRest clock) _ _ u).mpr ⟨cs, hrest, rfl⟩

theorem length_le_length_flatMap (cs : List Char) :
    cs.length ≤ (cs.flatMap escapeChar).length := by
  induction cs with
  | nil => simp
  | cons c cs ih =>
    have hpos : 0 < (escapeChar c).length := List.length_pos_iff.mpr (escapeChar_ne_nil c)
    rw [List.flatMap_cons, List.length_append, List.length_cons]
    omega

theorem stringBody_written (s : String) (u : List Char) :
    stringBody (s.toList.flatMap escapeChar ++ '"' :: u) = .ok (s, u) := by
  have hlong := length_le_length_flatMap s.toList
  have hrest := stringRest_written s.toList (s.toList.flatMap escapeChar ++ '"' :: u) u (by
    rw [List.length_append, List.length_cons]
    omega)
  exact (map_eq_ok_iff String.ofList _ _ s u).mpr ⟨s.toList, hrest, by simp⟩

theorem significand_digits (n : ℕ) (ds u : List Char) (hds : ds.all Char.isDigit = true)
    (hu : u.head?.any Char.isDigit = false)
    (hfits : Nat.ofDigitChars 10 ds n ≤ 18446744073709551615) :
    significand n (ds ++ u) = (Nat.ofDigitChars 10 ds n, ds.length, u) := by
  induction ds generalizing n with
  | nil =>
    cases u with
    | nil => rfl
    | cons c u =>
      have hc : ¬ c.isDigit = true := by simpa using hu
      simp [significand, hc]
  | cons d ds ih =>
    simp only [List.all_cons, Bool.and_eq_true] at hds
    have hstep : Nat.ofDigitChars 10 (d :: ds) n = Nat.ofDigitChars 10 ds (n * 10 + digitOf d) := by
      rw [Nat.ofDigitChars_cons, Nat.mul_comm, digitOf]
    have hle : n * 10 + digitOf d ≤ Nat.ofDigitChars 10 ds (n * 10 + digitOf d) := by
      rw [Nat.ofDigitChars_eq_ofDigitChars_zero]
      have hpow : 1 ≤ 10 ^ ds.length := Nat.one_le_pow _ _ (by norm_num)
      nlinarith
    rw [hstep] at hfits ⊢
    rw [List.cons_append, significand, if_pos ⟨hds.1, hle.trans hfits⟩, ih _ hds.2 hfits]
    rfl

theorem head_toDigits (n : ℕ) (h : n ≠ 0) :
    ∃ c ds, Nat.toDigits 10 n = c :: ds ∧ c ≠ '0' := by
  induction n using Nat.strong_induction_on with
  | h n ih =>
    by_cases hsmall : n < 10
    · refine ⟨n.digitChar, [], Nat.toDigits_of_lt_base hsmall, ?_⟩
      rwa [Ne, Nat.digitChar_eq_zero]
    · obtain ⟨c, ds, hds, hc⟩ := ih (n / 10) (by omega) (by omega)
      refine ⟨c, ds ++ [(n % 10).digitChar], ?_, hc⟩
      rw [Nat.toDigits_of_base_le (by norm_num) (by omega), hds, List.cons_append]

theorem isDigit_toDigits (n : ℕ) : (Nat.toDigits 10 n).all Char.isDigit = true :=
  List.all_eq_true.mpr fun _ hc => Nat.isDigit_of_mem_toDigits (by norm_num) (by norm_num) hc

theorem not_digit_of_not_goesOn (u : List Char) (hu : u.head?.all (fun c => !goesOn c) = true) :
    u.head?.any Char.isDigit = false :=
  allows_number Char.isDigit goesOn_of_isDigit [] [] u rfl (.inr hu)

/-- A number without fraction and exponent ends in front of what cannot go on one. -/
theorem afterWhole_written (negative : Bool) (n : ℕ) (u : List Char)
    (hu : u.head?.all (fun c => !goesOn c) = true) :
    afterWhole negative n 0 u = .ok (wholeNumber negative n, u) := by
  have hend := allows_number isPointOrMark goesOn_of_isPointOrMark [] [] u rfl (.inr hu)
  rw [List.nil_append] at hend
  rw [afterWhole_end negative n 0 u hend]
  rfl

theorem numberBody_toDigits (negative : Bool) (n : ℕ) (hn : n ≤ 18446744073709551615)
    (u : List Char) (hu : u.head?.all (fun c => !goesOn c) = true) :
    numberBody negative (Nat.toDigits 10 n ++ u) = .ok (wholeNumber negative n, u) := by
  have hafter := afterWhole_written negative n u hu
  have hdigit := not_digit_of_not_goesOn u hu
  by_cases hzero : n = 0
  · subst hzero
    have hstart : startsWithDigit u = false := by rw [startsWithDigit_eq, hdigit]
    rw [Nat.toDigits_zero]
    simpa [numberBody, hstart] using hafter
  · obtain ⟨c, ds, hds, hc⟩ := head_toDigits n hzero
    have hall := isDigit_toDigits n
    have hvalue : Nat.ofDigitChars 10 ds (digitOf c) = n := by
      have h := @Nat.ofDigitChars_ten_toDigits n
      rw [hds, Nat.ofDigitChars_cons] at h
      simpa [digitOf] using h
    rw [hds, List.all_cons, Bool.and_eq_true] at hall
    have hsig := significand_digits (digitOf c) ds u hall.2 hdigit (hvalue ▸ hn)
    obtain ⟨htake, hdrop⟩ := takeWhile_digits [] u rfl hdigit
    rw [List.nil_append] at htake hdrop
    rw [hvalue] at hsig
    rw [hds, List.cons_append, numberBody, if_neg hc, if_pos hall.1, hsig]
    simp only [htake, hdrop]
    exact hafter

theorem ofInt_val (w : Whole) : Whole.ofInt? w.val = some w := by
  rw [Whole.ofInt?, dif_pos ⟨w.lower, w.upper⟩]

theorem wholeNumber_natAbs (w : Whole) :
    wholeNumber (decide (w.val < 0)) w.val.natAbs = .whole w := by
  by_cases hneg : w.val < 0
  · have hint : -(w.val.natAbs : ℤ) = w.val := by omega
    have hne : ¬ w.val.natAbs = 0 := by omega
    rw [wholeNumber, decide_eq_true hneg, if_neg (by simp [hne]), if_pos rfl, hint, ofInt_val]
  · have hint : (w.val.natAbs : ℤ) = w.val := by omega
    rw [wholeNumber, decide_eq_false hneg, if_neg (by simp), if_neg (by simp), hint, ofInt_val]

theorem isSpace_of_isDigit (c : Char) (h : c.isDigit = true) : isSpace c = false := by
  by_contra hne
  have hspace := Bool.eq_true_of_not_eq_false hne
  simp only [isSpace, Bool.or_eq_true, decide_eq_true_eq] at hspace
  rcases hspace with ((rfl | rfl) | rfl) | rfl <;> cases h

theorem valueFrom_minus (inner : Option (Reader Json)) (s : List Char) :
    valueFrom inner '-' s = (number <$> numberBody true) s := rfl

theorem valueFrom_digit (inner : Option (Reader Json)) (c : Char) (hc : c.isDigit = true)
    (s : List Char) : valueFrom inner c s = (number <$> numberBody false) (c :: s) := by
  have hn : c ≠ 'n' := by rintro rfl; cases hc
  have ht : c ≠ 't' := by rintro rfl; cases hc
  have hf : c ≠ 'f' := by rintro rfl; cases hc
  have hm : c ≠ '-' := by rintro rfl; cases hc
  simp only [valueFrom, if_neg hn, if_neg ht, if_neg hf, if_neg hm, if_pos hc]

theorem valueAround_number (inner : Option (Reader Json)) (negative : Bool) (c : Char)
    (ds : List Char) (hc : c.isDigit = true) :
    valueAround inner ((if negative then ['-'] else []) ++ c :: ds) =
      (number <$> numberBody negative) (c :: ds) := by
  cases negative with
  | true =>
    exact (valueAround_eq inner ('-' :: c :: ds) '-' (c :: ds) rfl).trans (valueFrom_minus _ _)
  | false =>
    have hskip : skipSpace (c :: ds) = c :: ds := by
      rw [skipSpace, List.dropWhile_cons_of_neg (by simp [isSpace_of_isDigit c hc])]
    exact (valueAround_eq inner (c :: ds) c ds hskip).trans (valueFrom_digit inner c hc ds)

theorem valueAround_whole (inner : Option (Reader Json)) (w : Whole) (u : List Char)
    (hu : u.head?.all (fun c => !goesOn c) = true) :
    valueAround inner (intChars w.val ++ u) = .ok (.number (.whole w), u) := by
  have hsize : w.val.natAbs ≤ 18446744073709551615 := by
    have hlower := w.lower
    have hupper := w.upper
    omega
  have hbody := numberBody_toDigits (decide (w.val < 0)) w.val.natAbs hsize u hu
  have hall := isDigit_toDigits w.val.natAbs
  have hchars : intChars w.val =
      (if decide (w.val < 0) then ['-'] else []) ++ Nat.toDigits 10 w.val.natAbs := by
    unfold intChars
    by_cases hneg : w.val < 0 <;> simp [hneg]
  rw [wholeNumber_natAbs] at hbody
  rw [hchars]
  cases hds : Nat.toDigits 10 w.val.natAbs with
  | nil => exact absurd hds Nat.toDigits_ne_nil
  | cons c ds =>
    rw [hds] at hbody hall
    rw [List.all_cons, Bool.and_eq_true] at hall
    rw [List.append_assoc, List.cons_append, valueAround_number inner _ c _ hall.1]
    exact (map_eq_ok_iff number _ _ _ u).mpr ⟨_, hbody, rfl⟩

/-- A scalar is read the same whether or not arrays and objects may be entered. -/
theorem valueAround_scalar (inner other : Option (Reader Json)) (s : List Char) (j : Json)
    (rest : List Char) (h : valueAround inner s = .ok (j, rest)) (harray : ∀ as, j ≠ .array as)
    (hobject : ∀ ms, j ≠ .object ms) : valueAround other s = .ok (j, rest) := by
  cases hskip : skipSpace s with
  | nil => exact absurd h (valueAround_nil inner s j rest hskip)
  | cons c t =>
    rw [valueAround_eq _ s c t hskip] at h ⊢
    have hbracket : c ≠ '[' := by
      rintro rfl
      cases inner with
      | none => cases h
      | some item =>
        obtain ⟨as, -, has⟩ := (arrayOf_eq_ok_iff item t j rest).mp h
        exact harray as has.symm
    have hbrace : c ≠ '{' := by
      rintro rfl
      cases inner with
      | none => cases h
      | some item =>
        obtain ⟨read, -, hread⟩ := (objectOf_eq_ok_iff item t j rest).mp h
        exact hobject _ hread.symm
    simp only [valueFrom, if_neg hbracket, if_neg hbrace] at h ⊢
    exact h

def Solid (cs : List Char) : Prop := ∀ c ∈ cs, isSpace c = false

theorem solid_append (as bs : List Char) (ha : Solid as) (hb : Solid bs) : Solid (as ++ bs) := by
  intro c hc
  rcases List.mem_append.mp hc with h | h
  · exact ha c h
  · exact hb c h

theorem solid_of_sublist (as bs : List Char) (hb : Solid bs) (h : as.Sublist bs) : Solid as :=
  fun c hc => hb c (h.subset hc)

theorem solid_toDigits (n : ℕ) : Solid (Nat.toDigits 10 n) :=
  fun c hc => isSpace_of_isDigit c (List.all_eq_true.mp (isDigit_toDigits n) c hc)

theorem solid_zeros (n : ℕ) : Solid (Decimal.zeros n) := by
  intro c hc
  rw [List.eq_of_mem_replicate hc]
  rfl

theorem solid_point (layout : Decimal.Layout) (digits : List Char) (exponent : ℤ)
    (h : Solid digits) : Solid (layout.point digits exponent) := by
  have hfraction : Solid (if layout.wholeFraction then ['.', '0'] else []) := by
    split <;> simp [Solid, isSpace]
  have hdot : Solid ['.'] := by simp [Solid, isSpace]
  have htake := solid_of_sublist _ _ h (digits.take_sublist (exponent.toNat + 1))
  have hdrop := solid_of_sublist _ _ h (digits.drop_sublist (exponent.toNat + 1))
  simp only [Decimal.Layout.point]
  by_cases hneg : exponent < 0
  · rw [if_pos hneg]
    exact solid_append _ _ (solid_append _ _ (by simp [Solid, isSpace]) (solid_zeros _)) h
  · rw [if_neg hneg]
    by_cases hshort : digits.length ≤ exponent.toNat + 1
    · rw [if_pos hshort]
      exact solid_append _ _ (solid_append _ _ h (solid_zeros _)) hfraction
    · rw [if_neg hshort]
      exact solid_append _ _ (solid_append _ _ htake hdot) hdrop

theorem solid_scientific (digits : List Char) (exponent : ℤ) (h : Solid digits) :
    Solid (Decimal.scientific digits exponent) := by
  have htake := solid_of_sublist _ _ h (digits.take_sublist 1)
  have hdrop := solid_of_sublist _ _ h (digits.drop_sublist 1)
  have hfraction : Solid (if digits.drop 1 = [] then [] else '.' :: digits.drop 1) := by
    split
    · simp [Solid]
    · exact solid_append ['.'] _ (by simp [Solid, isSpace]) hdrop
  have hmark : Solid ['e', if exponent < 0 then '-' else '+'] := by
    split <;> simp [Solid, isSpace]
  exact solid_append _ _ (solid_append _ _ (solid_append _ _ htake hfraction) hmark)
    (solid_toDigits _)

theorem solid_digits (layout : Decimal.Layout) (digits : List Char) (exponent : ℤ)
    (h : Solid digits) : Solid (layout.digits digits exponent) := by
  unfold Decimal.Layout.digits
  split
  · exact solid_point layout digits exponent h
  · split
    · exact solid_point layout digits exponent h
    · exact solid_scientific digits exponent h

theorem solid_floatChars (x : Float) : Solid (floatChars x) := by
  have hmagnitude : Solid (Decimal.Layout.data.magnitude x) := by
    unfold Decimal.Layout.magnitude
    dsimp only
    split
    · exact solid_digits _ _ _ (by simp [Solid, isSpace])
    · exact solid_digits _ _ _ (solid_toDigits _)
  unfold floatChars Decimal.Layout.write
  split
  · split
    · simp [Solid, isSpace]
    · refine solid_append _ _ ?_ ?_
      · split <;> simp [Solid, isSpace]
      · split
        · simp [Solid, isSpace]
        · exact hmagnitude
  · simp [Solid, isSpace]

theorem solid_numberChars (n : Number) : Solid (numberChars n) := by
  cases n with
  | float x => exact solid_floatChars x
  | whole w =>
    show Solid (if w.val < 0 then _ else _)
    split
    · exact solid_append ['-'] _ (by simp [Solid, isSpace]) (solid_toDigits _)
    · exact solid_toDigits _

end Json

def Number.ReadsBack (n : Number) : Prop := Json.ofText (Json.number n).compact = .ok (.number n)

namespace Json

theorem toList_compact_number (n : Number) : (number n).compact.toList = numberChars n := by
  simp [compact, compactChars]

theorem isSource_number (k : ℕ) (n : Number) (h : n.ReadsBack) :
    IsSource (value k) (numberChars n) (number n) := by
  obtain ⟨t, hread, hend⟩ := (run_eq_ok_iff _ _ _).mp h
  rw [toList_compact_number] at hread
  have hscalar : value k (numberChars n) = .ok (number n, t) := by
    cases k with
    | zero => exact valueAround_scalar _ none _ _ t hread (by simp) (by simp)
    | succ k => exact valueAround_scalar _ (some (value k)) _ _ t hread (by simp) (by simp)
  obtain ⟨used, hsplit, -, hu⟩ := local_value k _ _ t hscalar
  have ht : t = [] := by
    cases t with
    | nil => rfl
    | cons c t =>
      have hsolid : isSpace c = false := solid_numberChars n c (by rw [hsplit]; simp)
      rw [skipSpace, List.dropWhile_cons_of_neg (by simp [hsolid])] at hend
      cases hend
  intro u hgo
  rw [hsplit, ht, List.append_nil]
  exact hu u (.inr hgo)

end Json

theorem Number.readsBack_whole (w : Whole) : (Number.whole w).ReadsBack := by
  have hread := Json.valueAround_whole (some (Json.value 126)) w [] rfl
  rw [List.append_nil] at hread
  rw [Number.ReadsBack, Json.ofText, Json.run_eq_ok_iff, Json.toList_compact_number]
  exact ⟨[], hread, rfl⟩

end Screening
