import Screening.Proofs.Reading

/-!
# Keywords, strings and numbers

Keywords and strings end by themselves. A number ends where its digits end, so
its reader looks at the character that follows. The length of the text, which
bounds the reader of a string, makes no difference to what it reads.
-/

set_option autoImplicit false

namespace Screening.Json

variable {α : Type}

theorem local_faultHere {l : Lookahead} {m : ℕ} (cause : Cause) (beyond : Nat) :
    Local l m (faultHere cause beyond : Reader α) :=
  local_failing fun _ _ _ h => nomatch h

/-- A fault, whatever was taken back before it. -/
theorem local_faultAhead {l : Lookahead} {m : ℕ} (cause : Cause)
    (ahead : List Char → List Char) :
    Local l m (fun s => faultAhead cause (ahead s) : Reader α) :=
  local_failing fun _ _ _ h => nomatch h

theorem local_keyword (value : α) (word : List Char) : Local .none 0 (keyword value word) := by
  induction word with
  | nil => exact local_pure value
  | cons c word ih =>
    have hnext (d : Char) : Local .none 0 (fun s =>
        if d = c then keyword value word s else faultHere .badKeyword 1 (d :: s)) :=
      local_choice _ ih (local_failing fun _ _ _ h => nomatch h)
    have hhead : Local .none 1 (keyword value (c :: word)) :=
      local_head _ (fun _ _ h => nomatch h) (fun _ _ => rfl) hnext
    exact hhead.forget

theorem local_hexEscape : Local .none 4 hexEscape := by
  intro s n rest h
  unfold hexEscape at h
  split at h
  · next a b c d t =>
    split at h
    · next m hm =>
      cases h
      refine ⟨[a, b, c, d], rfl, le_rfl, fun u _ => ?_⟩
      simp [hexEscape, hm]
    · cases h
  · split at h <;> cases h

theorem local_lowSurrogate (high : Nat) : Local .none 6 (lowSurrogate high) := by
  intro s c rest h
  unfold lowSurrogate at h
  split at h
  · cases h
  · next t =>
    split at h
    · cases h
    · next t =>
      cases hx : hexEscape t with
      | error e => simp [hx] at h
      | ok result =>
        obtain ⟨low, t'⟩ := result
        obtain ⟨used, rfl, hused, hu⟩ := local_hexEscape t low t' hx
        simp only [hx] at h
        split at h
        · next hlow =>
          simp only [Except.ok.injEq, Prod.mk.injEq] at h
          obtain ⟨rfl, rfl⟩ := h
          refine ⟨'\\' :: 'u' :: used, rfl, by simpa using hused, fun u hk => ?_⟩
          simp [lowSurrogate, hu u hk, hlow]
        · cases h
    · cases h
  · cases h

theorem local_unicodeEscape : Local .none 4 unicodeEscape := by
  apply Local.bind local_hexEscape (n := 0)
  · intro n
    have hlow := (local_lowSurrogate n).forget
    exact local_ite _ (local_faultHere _ _) (local_ite _ hlow (local_pure _))
  · exact .inr fun _ _ h => h

theorem local_escape : Local .none 1 escape := by
  have hunicode := local_unicodeEscape.forget
  have hnext (c : Char) : Local .none 0 (fun s => escape (c :: s)) := by
    simp only [escape]
    iterate 8 refine local_choice _ (local_pure _) ?_
    exact local_choice _ hunicode (local_failing fun _ _ _ h => nomatch h)
  exact local_head (fun c s => escape (c :: s)) (fun _ _ h => nomatch h) (fun _ _ => rfl) hnext

/-- The clock of a string only has to last for what is taken. -/
theorem stringRest_local (clock s cs rest : List Char) (h : stringRest clock s = .ok (cs, rest)) :
    ∃ used, s = used ++ rest ∧ 0 < used.length ∧ ∀ u clock', used.length ≤ clock'.length →
      stringRest clock' (used ++ u) = .ok (cs, u) := by
  induction clock generalizing s cs with
  | nil => cases h
  | cons tick clock ih =>
    cases s with
    | nil => cases h
    | cons c s =>
      simp only [stringRest] at h
      split at h
      · next hq =>
        cases h
        refine ⟨[c], rfl, Nat.one_pos, fun u clock' hclock => ?_⟩
        cases clock' with
        | nil => simp at hclock
        | cons tick clock' => simp [stringRest, hq]
      split at h
      · next hq hb =>
        obtain ⟨d, t, hd, h⟩ := (bind_eq_ok_iff _ _ s cs rest).mp h
        obtain ⟨ds, hds, rfl⟩ := (map_eq_ok_iff (d :: ·) (stringRest clock) t cs rest).mp h
        obtain ⟨used, rfl, hused, hu⟩ := local_escape s d t hd
        obtain ⟨more, rfl, hmore, hv⟩ := ih t ds hds
        refine ⟨c :: (used ++ more), by simp, by simp, fun u clock' hclock => ?_⟩
        cases clock' with
        | nil => simp at hclock
        | cons tick clock' =>
          simp only [List.length_cons, List.length_append] at hclock
          have hrest := hv u clock' (by omega)
          simp only [stringRest, List.cons_append, List.append_assoc, if_neg hq, if_pos hb]
          exact (bind_eq_ok_iff _ _ _ _ _).mpr ⟨d, more ++ u, hu _ trivial,
            (map_eq_ok_iff (d :: ·) _ _ _ _).mpr ⟨ds, hrest, rfl⟩⟩
      split at h
      · cases h
      · next hq hb hcontrol =>
        obtain ⟨ds, hds, rfl⟩ := (map_eq_ok_iff (c :: ·) (stringRest clock) s cs rest).mp h
        obtain ⟨used, rfl, hused, hu⟩ := ih s ds hds
        refine ⟨c :: used, rfl, by simp, fun u clock' hclock => ?_⟩
        cases clock' with
        | nil => simp at hclock
        | cons tick clock' =>
          have hrest := hu u clock' (by simpa using hclock)
          simp only [stringRest, List.cons_append, if_neg hq, if_neg hb, if_neg hcontrol]
          exact (map_eq_ok_iff (c :: ·) _ _ _ _).mpr ⟨ds, hrest, rfl⟩

theorem local_stringBody : Local .none 1 stringBody := by
  intro s string rest h
  obtain ⟨cs, hcs, rfl⟩ := (map_eq_ok_iff String.ofList (stringRest s) s string rest).mp h
  obtain ⟨used, rfl, hused, hu⟩ := stringRest_local s s cs rest hcs
  refine ⟨used, rfl, hused, fun u _ => ?_⟩
  have hrest := hu u (used ++ u) (by simp)
  exact (map_eq_ok_iff String.ofList (stringRest (used ++ u)) (used ++ u) _ u).mpr
    ⟨cs, hrest, rfl⟩

theorem allows_number (p : Char → Bool) (hp : ∀ c, p c = true → goesOn c = true)
    (used rest u : List Char) (h : (used ++ rest).head?.any p = false)
    (hu : Lookahead.number.Allows rest u) : (used ++ u).head?.any p = false := by
  cases used with
  | cons c used => exact h
  | nil =>
    rcases hu with hu | hu
    · rw [List.nil_append, hu]
      exact h
    · cases u with
      | nil => rfl
      | cons c u =>
        have hc : goesOn c = false := by simpa using hu
        simp only [List.nil_append, List.head?_cons, Option.any_some]
        by_contra hne
        rw [hp c (Bool.eq_true_of_not_eq_false hne)] at hc
        cases hc

def Stays (reader : Reader α) : Prop :=
  ∀ s a rest, reader s = .ok (a, rest) → rest = s ∧ ∀ u, reader u = .ok (a, u)

theorem stays_pure (a : α) : Stays (pure a : Reader α) := by
  intro s b rest h
  cases h
  exact ⟨rfl, fun u => rfl⟩

theorem stays_scaled (negative : Bool) (n : Nat) (exponent : Int) :
    Stays (scaled negative n exponent) := by
  unfold scaled
  cases scale? n exponent with
  | none => intro s a rest h; cases h
  | some x => exact stays_pure _

/-- A number goes on with a character of some kind, or ends in front of another. -/
theorem onward {reader stop : Reader α} (p : Char → Bool)
    (hp : ∀ c, p c = true → goesOn c = true) (hstop : Stays stop)
    (hend : ∀ s, s.head?.any p = false → reader s = stop s) (s : List Char) (a : α)
    (rest : List Char) (h : reader s = .ok (a, rest))
    (honward : ∀ c t, s = c :: t → p c = true → ∃ used, t = used ++ rest ∧
      ∀ u, Lookahead.number.Allows rest u → reader (c :: used ++ u) = .ok (a, u)) :
    ∃ used, s = used ++ rest ∧ 0 ≤ used.length ∧
      ∀ u, Lookahead.number.Allows rest u → reader (used ++ u) = .ok (a, u) := by
  cases hhead : s.head?.any p with
  | false =>
    rw [hend s hhead] at h
    obtain ⟨rfl, hu⟩ := hstop s a rest h
    refine ⟨[], rfl, le_rfl, fun u hk => ?_⟩
    rw [List.nil_append, hend u (allows_number p hp [] rest u hhead hk)]
    exact hu u
  | true =>
    cases s with
    | nil => cases hhead
    | cons c s =>
      obtain ⟨used, rfl, hu⟩ := honward c s rfl hhead
      exact ⟨c :: used, rfl, Nat.zero_le _, hu⟩

theorem startsWithDigit_eq (s : List Char) : startsWithDigit s = s.head?.any Char.isDigit := by
  cases s <;> rfl

theorem goesOn_of_isDigit (c : Char) (h : c.isDigit = true) : goesOn c = true := by
  simp [goesOn, h]

theorem goesOn_of_isExponentMark (c : Char) (h : isExponentMark c = true) : goesOn c = true := by
  simp [goesOn, h]

theorem takeWhile_digits (ds u : List Char) (hds : ds.all Char.isDigit = true)
    (hu : u.head?.any Char.isDigit = false) :
    (ds ++ u).takeWhile Char.isDigit = ds ∧ (ds ++ u).dropWhile Char.isDigit = u := by
  rw [List.takeWhile_append_of_pos (List.all_eq_true.mp hds),
    List.dropWhile_append_of_pos (List.all_eq_true.mp hds)]
  cases u with
  | nil => simp
  | cons c u =>
    have hc : ¬ c.isDigit = true := by simpa using hu
    simp [hc]

theorem head_dropWhile_digits (s : List Char) :
    (s.dropWhile Char.isDigit).head?.any Char.isDigit = false := by
  have h := List.head?_dropWhile_not Char.isDigit s
  cases hd : (s.dropWhile Char.isDigit).head? with
  | none => rfl
  | some c => simpa [hd] using h

theorem significand_append (n : Nat) (ds : List Char) (hds : ds.all Char.isDigit = true) :
    ∃ m count surplus, surplus.all Char.isDigit = true ∧
      ∀ u, u.head?.any Char.isDigit = false →
        significand n (ds ++ u) = (m, count, surplus ++ u) := by
  induction ds generalizing n with
  | nil =>
    refine ⟨n, 0, [], rfl, fun u hu => ?_⟩
    cases u with
    | nil => rfl
    | cons c u =>
      have hc : ¬ c.isDigit = true := by simpa using hu
      simp [significand, hc]
  | cons d ds ih =>
    simp only [List.all_cons, Bool.and_eq_true] at hds
    by_cases hfits : n * 10 + digitOf d ≤ 18446744073709551615
    · obtain ⟨m, count, surplus, hsurplus, hu⟩ := ih (n * 10 + digitOf d) hds.2
      refine ⟨m, count + 1, surplus, hsurplus, fun u hnodigit => ?_⟩
      rw [List.cons_append, significand, if_pos ⟨hds.1, hfits⟩, hu u hnodigit]
    · refine ⟨n, 0, d :: ds, by simpa using hds, fun u _ => ?_⟩
      rw [List.cons_append, significand, if_neg fun h => hfits h.2]

def afterSignificand (n : Nat) (next : Nat → Nat → Nat → Reader α) : Reader α := fun s =>
  match significand n s with
  | (m, count, t) =>
    next m count (t.takeWhile Char.isDigit).length (t.dropWhile Char.isDigit)

theorem local_afterSignificand (n : Nat) (next : Nat → Nat → Nat → Reader α)
    (hnext : ∀ m count surplus, Local .number 0 (next m count surplus)) (s : List Char) (a : α)
    (rest : List Char) (h : afterSignificand n next s = .ok (a, rest)) :
    ∃ used, s = used ++ rest ∧ (s.head?.any Char.isDigit = true → 0 < used.length) ∧
      ∀ u, Lookahead.number.Allows rest u → afterSignificand n next (used ++ u) = .ok (a, u) := by
  have hds : (s.takeWhile Char.isDigit).all Char.isDigit = true := List.all_takeWhile
  have hsplit : s = s.takeWhile Char.isDigit ++ s.dropWhile Char.isDigit :=
    List.takeWhile_append_dropWhile.symm
  have hend := head_dropWhile_digits s
  generalize s.takeWhile Char.isDigit = ds at hds hsplit
  generalize s.dropWhile Char.isDigit = t at hsplit hend
  subst hsplit
  obtain ⟨m, count, surplus, hsurplus, hsig⟩ := significand_append n ds hds
  have hrun (u : List Char) (hu : u.head?.any Char.isDigit = false) :
      afterSignificand n next (ds ++ u) = next m count surplus.length u := by
    obtain ⟨htake, hdrop⟩ := takeWhile_digits surplus u hsurplus hu
    rw [afterSignificand, hsig u hu]
    simp only [htake, hdrop]
  rw [hrun t hend] at h
  obtain ⟨used, rfl, -, hu⟩ := hnext m count surplus.length t a rest h
  refine ⟨ds ++ used, (List.append_assoc _ _ _).symm, fun hdigit => ?_, fun u hk => ?_⟩
  · cases ds with
    | nil =>
      rw [List.nil_append, hend] at hdigit
      cases hdigit
    | cons d ds => simp
  · rw [List.append_assoc, hrun _ (allows_number _ goesOn_of_isDigit used rest u hend hk)]
    exact hu u hk

theorem exponentDigits_end (negative small : Bool) (n : Nat) (exponent : Int) (e : Nat)
    (s : List Char) (hs : s.head?.any Char.isDigit = false) :
    exponentDigits negative small n exponent e s =
      scaled negative n (if small then exponent - e else exponent + e) s := by
  cases s with
  | nil => rfl
  | cons c s =>
    have hc : ¬ c.isDigit = true := by simpa using hs
    simp [exponentDigits, hc]

theorem local_exponentDigits (negative small : Bool) (n : Nat) (exponent : Int) (e : Nat) :
    Local .number 0 (exponentDigits negative small n exponent e) := by
  intro s
  induction s generalizing e with
  | nil =>
    intro a rest h
    exact onward Char.isDigit goesOn_of_isDigit (stays_scaled _ _ _)
      (exponentDigits_end negative small n exponent e) [] a rest h fun c t hs => nomatch hs
  | cons d s ih =>
    intro a rest h
    apply onward Char.isDigit goesOn_of_isDigit (stays_scaled _ _ _)
      (exponentDigits_end negative small n exponent e) (d :: s) a rest h
    intro c t hs hd
    cases hs
    simp only [exponentDigits, if_pos hd, List.cons_append] at h ⊢
    split at h
    · next hfits =>
      obtain ⟨used, rfl, -, hu⟩ := ih _ a rest h
      exact ⟨used, rfl, fun u hk => by simpa [hfits] using hu u hk⟩
    split at h
    · cases h
    · next hfits hzero =>
      simp only [Except.ok.injEq, Prod.mk.injEq] at h
      obtain ⟨rfl, rfl⟩ := h
      refine ⟨s.takeWhile Char.isDigit, List.takeWhile_append_dropWhile.symm, fun u hk => ?_⟩
      have hu := allows_number _ goesOn_of_isDigit [] _ u (head_dropWhile_digits s) hk
      rw [if_neg hfits, if_neg hzero, (takeWhile_digits _ u List.all_takeWhile hu).2]

theorem local_exponentFirst (negative small : Bool) (n : Nat) (exponent : Int) :
    Local .number 1 (exponentFirst negative small n exponent) := by
  have hnext (c : Char) :
      Local .number 0 (fun s => exponentFirst negative small n exponent (c :: s)) :=
    local_choice _ (local_exponentDigits _ _ _ _ _) (local_failing fun _ _ _ h => nomatch h)
  exact local_head (fun c s => exponentFirst negative small n exponent (c :: s))
    (fun _ _ h => nomatch h) (fun _ _ => rfl) hnext

theorem local_exponentPart (negative : Bool) (n : Nat) (exponent : Int) :
    Local .number 1 (exponentPart negative n exponent) := by
  intro s a rest h
  unfold exponentPart at h
  split at h
  · next t =>
    obtain ⟨used, rfl, hused, hu⟩ := local_exponentFirst _ _ _ _ t a rest h
    exact ⟨'+' :: used, rfl, by simp, hu⟩
  · next t =>
    obtain ⟨used, rfl, hused, hu⟩ := local_exponentFirst _ _ _ _ t a rest h
    exact ⟨'-' :: used, rfl, by simp, hu⟩
  · next hplus hminus =>
    obtain ⟨used, rfl, hused, hu⟩ := local_exponentFirst _ _ _ _ s a rest h
    refine ⟨used, rfl, hused, fun u hk => ?_⟩
    cases used with
    | nil => simp at hused
    | cons c used =>
      rw [← hu u hk, List.cons_append]
      unfold exponentPart
      split
      · next hc => cases hc; exact absurd rfl (hplus _)
      · next hc => cases hc; exact absurd rfl (hminus _)
      · rfl

theorem afterDigits_end (negative : Bool) (n : Nat) (exponent : Int) (s : List Char)
    (hs : s.head?.any isExponentMark = false) :
    afterDigits negative n exponent s = scaled negative n exponent s := by
  cases s with
  | nil => rfl
  | cons c s =>
    have hc : ¬ isExponentMark c = true := by simpa using hs
    simp [afterDigits, hc]

theorem local_afterDigits (negative : Bool) (n : Nat) (exponent : Int) :
    Local .number 0 (afterDigits negative n exponent) := by
  intro s a rest h
  apply onward isExponentMark goesOn_of_isExponentMark (stays_scaled _ _ _)
    (afterDigits_end negative n exponent) s a rest h
  intro c t hs hc
  subst hs
  simp only [afterDigits, if_pos hc, List.cons_append] at h ⊢
  obtain ⟨used, rfl, -, hu⟩ := local_exponentPart _ _ _ t a rest h
  exact ⟨used, rfl, hu⟩

theorem local_fraction (negative : Bool) (n : Nat) (exponent : Int) :
    Local .number 1 (fraction negative n exponent) := by
  have hdigits (c : Char) (t : List Char) (hc : c.isDigit = true) :
      fraction negative n exponent (c :: t) =
        afterSignificand n (fun m count _ => afterDigits negative m (exponent - count))
          (c :: t) := by
    simp [fraction, hc, afterSignificand]
  intro s a rest h
  cases s with
  | nil => cases h
  | cons c t =>
    by_cases hc : c.isDigit = true
    · rw [hdigits c t hc] at h
      obtain ⟨used, hsplit, hpos, hu⟩ :=
        local_afterSignificand _ _ (fun _ _ _ => local_afterDigits _ _ _) _ a rest h
      have hused : 1 ≤ used.length := hpos (by simpa using hc)
      refine ⟨used, hsplit, hused, fun u hk => ?_⟩
      cases used with
      | nil => simp at hused
      | cons d used =>
        cases hsplit
        rw [List.cons_append, hdigits c _ hc]
        exact hu u hk
    · rw [fraction, if_neg hc] at h
      cases h

def isPointOrMark (c : Char) : Bool := c = '.' || isExponentMark c

theorem goesOn_of_isPointOrMark (c : Char) (h : isPointOrMark c = true) : goesOn c = true := by
  simp only [isPointOrMark, goesOn, Bool.or_eq_true] at h ⊢
  tauto

def wholeEnd (negative : Bool) (n surplus : Nat) : Reader Number :=
  if surplus = 0 then Pure.pure (wholeNumber negative n) else scaled negative n surplus

theorem stays_wholeEnd (negative : Bool) (n surplus : Nat) :
    Stays (wholeEnd negative n surplus) := by
  unfold wholeEnd
  split
  · exact stays_pure _
  · exact stays_scaled _ _ _

theorem afterWhole_end (negative : Bool) (n surplus : Nat) (s : List Char)
    (hs : s.head?.any isPointOrMark = false) :
    afterWhole negative n surplus s = wholeEnd negative n surplus s := by
  unfold wholeEnd
  cases s with
  | nil => simp only [afterWhole]; split <;> rfl
  | cons c s =>
    have hc : ¬ c = '.' ∧ ¬ isExponentMark c = true := by
      simpa [isPointOrMark] using hs
    simp only [afterWhole, if_neg hc.1, if_neg hc.2]
    split <;> rfl

theorem local_afterWhole (negative : Bool) (n surplus : Nat) :
    Local .number 0 (afterWhole negative n surplus) := by
  intro s a rest h
  apply onward isPointOrMark goesOn_of_isPointOrMark (stays_wholeEnd _ _ _)
    (afterWhole_end negative n surplus) s a rest h
  intro c t hs hc
  subst hs
  simp only [afterWhole, List.cons_append] at h ⊢
  by_cases hpoint : c = '.'
  · simp only [if_pos hpoint] at h ⊢
    obtain ⟨used, rfl, -, hu⟩ := local_fraction _ _ _ t a rest h
    exact ⟨used, rfl, hu⟩
  · have hmark : isExponentMark c = true := by simpa [isPointOrMark, hpoint] using hc
    simp only [if_neg hpoint, if_pos hmark] at h ⊢
    obtain ⟨used, rfl, -, hu⟩ := local_exponentPart _ _ _ t a rest h
    exact ⟨used, rfl, hu⟩

theorem local_numberBody (negative : Bool) : Local .number 1 (numberBody negative) := by
  have hzero : Local .number 0 (fun s => if startsWithDigit s then faultAhead .badNumber s
      else afterWhole negative 0 0 s) := by
    intro s a rest h
    simp only [startsWithDigit_eq] at h ⊢
    split at h
    · cases h
    · next hdigit =>
      obtain ⟨used, rfl, hused, hu⟩ := local_afterWhole _ _ _ s a rest h
      refine ⟨used, rfl, hused, fun u hk => ?_⟩
      have hnodigit := allows_number _ goesOn_of_isDigit used rest u
        (Bool.eq_false_of_not_eq_true hdigit) hk
      rw [hnodigit]
      exact hu u hk
  have hdigits (c : Char) : Local .number 0 (afterSignificand (digitOf c)
      (fun n _ surplus => afterWhole negative n surplus)) := by
    intro s a rest h
    obtain ⟨used, hsplit, -, hu⟩ :=
      local_afterSignificand _ _ (fun _ _ _ => local_afterWhole _ _ _) s a rest h
    exact ⟨used, hsplit, Nat.zero_le _, hu⟩
  have hnext (c : Char) : Local .number 0 (fun s => numberBody negative (c :: s)) :=
    local_choice _ hzero (local_choice _ (hdigits c) (local_failing fun _ _ _ h => nomatch h))
  exact local_head (fun c s => numberBody negative (c :: s)) (fun _ _ h => nomatch h)
    (fun _ _ => rfl) hnext

end Screening.Json
