import Screening.Json.Skip
import Screening.Proofs.Nesting

/-!
# How far a skipped value is looked at

Skipping a value takes the same characters again before every text that starts
like the one it stood before.
-/

set_option autoImplicit false

namespace Screening.Json

variable {α : Type}

/-- A reader that looks at the next character before it takes any. -/
theorem local_onHead {m : ℕ} {reader : Reader α} (next : Option Char → Reader α)
    (hreader : ∀ s, reader s = next s.head? s) (hnext : ∀ c, Local .one m (next c)) :
    Local .one m reader := by
  intro s a rest hs
  rw [hreader] at hs
  obtain ⟨used, hsplit, hm, hu⟩ := hnext _ s a rest hs
  refine ⟨used, hsplit, hm, fun u hk => ?_⟩
  have hhead : (used ++ u).head? = s.head? := by
    rw [hsplit]
    cases used with
    | nil => exact hk
    | cons c used => rfl
  rw [hreader, hhead]
  exact hu u hk

theorem Local.drop {m : ℕ} {reader : Reader α} (h : Local .one m reader) :
    Local .one m (fun s => reader (s.drop 1)) := by
  intro s a rest hs
  obtain ⟨used, hsplit, hm, hu⟩ := h _ a rest hs
  cases s with
  | nil =>
    obtain ⟨rfl, rfl⟩ := List.append_eq_nil_iff.mp hsplit.symm
    refine ⟨[], rfl, hm, fun u hk => ?_⟩
    cases u with
    | nil => exact hu [] rfl
    | cons c u => cases hk
  | cons c s =>
    refine ⟨c :: used, congrArg (c :: ·) hsplit, hm.trans (Nat.le_succ _), fun u hk => ?_⟩
    exact hu u hk

/-- A reader that passes over white space and looks at the character after it. -/
theorem local_peeked {reader : Reader α} (next : Char → Reader α)
    (hnil : ∀ s a rest, skipSpace s = [] → reader s ≠ .ok (a, rest))
    (hcons : ∀ s c t, skipSpace s = c :: t → reader s = next c (c :: t))
    (hnext : ∀ c, Local .one 0 (next c)) : Local .one 0 reader := by
  intro s a rest hs
  cases hskip : skipSpace s with
  | nil => exact absurd hs (hnil s a rest hskip)
  | cons c t =>
    obtain ⟨before, rfl, hagain⟩ := skipSpace_cons s c t hskip
    rw [hcons _ c t hskip] at hs
    obtain ⟨used, hsplit, -, hu⟩ := hnext c (c :: t) a rest hs
    refine ⟨before ++ used, by rw [List.append_assoc, hsplit], Nat.zero_le _, fun u hk => ?_⟩
    have hhead : ∃ v, used ++ u = c :: v := by
      cases used with
      | nil =>
        cases hsplit
        cases u with
        | nil => cases hk
        | cons d u =>
          cases hk
          exact ⟨u, rfl⟩
      | cons d used =>
        cases hsplit
        exact ⟨used ++ u, rfl⟩
    obtain ⟨v, hv⟩ := hhead
    have hskipped := hu u hk
    rw [List.append_assoc, hv, hcons _ c v (hagain v), ← hv]
    exact hskipped

theorem local_skipEscape : Local .none 1 skipEscape := by
  have hhex : Local .none 0 (do let _ ← hexEscape : Reader Unit) :=
    (Local.bind local_hexEscape (fun _ => local_pure ()) (.inr fun _ _ h => h)).forget
  refine local_head (fun c s => if c = 'u' then (do let _ ← hexEscape : Reader Unit) s else
    if c ∈ ['"', '\\', '/', 'b', 'f', 'n', 'r', 't'] then .ok ((), s)
    else faultHere .badEscape 1 (c :: s)) (fun _ _ h => nomatch h) (fun _ _ => rfl) fun c => ?_
  exact local_choice _ hhex <| local_choice _ (local_pure ()) <|
    local_failing fun _ _ _ h => nomatch h

theorem skipStringWithin_local (clock s rest : List Char)
    (h : skipStringWithin clock s = .ok ((), rest)) :
    ∃ used, s = used ++ rest ∧ 0 < used.length ∧ ∀ u clock', used.length ≤ clock'.length →
      skipStringWithin clock' (used ++ u) = .ok ((), u) := by
  induction clock generalizing s with
  | nil => cases h
  | cons tick clock ih =>
    cases s with
    | nil => cases h
    | cons c s =>
      simp only [skipStringWithin] at h
      split at h
      · next hq =>
        cases h
        refine ⟨[c], rfl, Nat.one_pos, fun u clock' hclock => ?_⟩
        cases clock' with
        | nil => simp at hclock
        | cons tick clock' => simp [skipStringWithin, hq]
      split at h
      · next hq hb =>
        obtain ⟨done, t, hd, hstring⟩ := (bind_eq_ok_iff _ _ s () rest).mp h
        obtain ⟨used, rfl, hused, hu⟩ := local_skipEscape s done t hd
        obtain ⟨more, rfl, hmore, hv⟩ := ih t hstring
        refine ⟨c :: (used ++ more), by simp, by simp, fun u clock' hclock => ?_⟩
        cases clock' with
        | nil => simp at hclock
        | cons tick clock' =>
          simp only [List.length_cons, List.length_append] at hclock
          have hrest := hv u clock' (by omega)
          simp only [skipStringWithin, List.cons_append, List.append_assoc, if_neg hq, if_pos hb]
          exact (bind_eq_ok_iff _ _ _ _ _).mpr ⟨done, more ++ u, hu _ trivial, hrest⟩
      split at h
      · cases h
      · next hq hb hcontrol =>
        obtain ⟨used, rfl, hused, hu⟩ := ih s h
        refine ⟨c :: used, rfl, by simp, fun u clock' hclock => ?_⟩
        cases clock' with
        | nil => simp at hclock
        | cons tick clock' =>
          have hrest := hu u clock' (by simpa using hclock)
          simpa only [skipStringWithin, List.cons_append, if_neg hq, if_neg hb, if_neg hcontrol]
            using hrest

theorem local_skipString : Local .none 1 skipString := by
  intro s done rest h
  obtain ⟨used, rfl, hused, hu⟩ := skipStringWithin_local s s rest h
  exact ⟨used, rfl, hused, fun u _ => hu u (used ++ u) (by simp)⟩

theorem local_skipDigits (fault : Reader Unit) (hfault : ∀ s a rest, fault s ≠ .ok (a, rest)) :
    Local .one 1 (skipDigits fault) := by
  intro s a rest h
  unfold skipDigits at h
  split at h
  · next hdigit =>
    cases h
    have hall : (s.takeWhile Char.isDigit).all Char.isDigit = true := List.all_takeWhile
    cases s with
    | nil => cases hdigit
    | cons c s =>
      have hc : c.isDigit = true := hdigit
      refine ⟨(c :: s).takeWhile Char.isDigit, List.takeWhile_append_dropWhile.symm, ?_,
        fun u hk => ?_⟩
      · simp [hc]
      · have hu : u.head?.any Char.isDigit = false := by
          rw [hk]
          exact head_dropWhile_digits (c :: s)
        have hagain := (takeWhile_digits _ u hall hu).2
        rw [List.takeWhile_cons_of_pos hc] at hagain ⊢
        rw [skipDigits, List.cons_append, startsWithDigit, if_pos hc, ← List.cons_append, hagain]
  · exact absurd h (hfault s a rest)

theorem local_skipExponent : Local .one 1 skipExponent := by
  have hdigits : Local .one 1 (skipDigits badDigit) :=
    local_skipDigits badDigit fun _ _ _ h => nomatch h
  refine local_head (fun c s => if c = '+' then skipDigits badDigit s else
    if c = '-' then skipDigits badDigit s else skipDigits badDigit (c :: s))
    (fun _ _ h => nomatch h) (fun c s => ?_) fun c => ?_
  · by_cases hplus : c = '+'
    · rw [hplus, if_pos rfl, skipExponent]
    by_cases hminus : c = '-'
    · rw [hminus, if_neg (by decide), if_pos rfl, skipExponent]
    · rw [if_neg hplus, if_neg hminus, skipExponent] <;> simp_all
  · exact local_choice _ hdigits.forget (local_choice _ hdigits.forget (hdigits.uncons c))

theorem local_skipExponentPart : Local .one 0 skipExponentPart := by
  refine local_onHead (fun c s =>
    if c.any isExponentMark = true then skipExponent (s.drop 1) else .ok ((), s)) (fun s => ?_)
    fun c => ?_
  · cases s <;> rfl
  · exact local_choice _ local_skipExponent.drop.forget (Local.of_none (local_pure ()))

theorem local_skipFraction : Local .one 0 skipFraction := by
  have hdigits : Local .one 1 (skipDigits (faultAhead .badNumber)) :=
    local_skipDigits _ fun _ _ _ h => nomatch h
  have hboth : Local .one 0 (do skipDigits (faultAhead .badNumber); skipExponentPart) :=
    (Local.bind hdigits (fun _ => local_skipExponentPart) (.inr fun _ _ h => h)).forget
  refine local_onHead (fun c s => if c = some '.' then
    (do skipDigits (faultAhead .badNumber); skipExponentPart : Reader Unit) (s.drop 1)
      else skipExponentPart s) (fun s => ?_) fun c => ?_
  · by_cases hpoint : s.head? = some '.'
    · obtain ⟨t, rfl⟩ := List.head?_eq_some_iff.mp hpoint
      rfl
    · rw [if_neg hpoint, skipFraction]
      rintro t rfl
      exact hpoint rfl
  · exact local_choice _ hboth.drop local_skipExponentPart

theorem local_skipNumber : Local .one 1 skipNumber := by
  have hdigits : Local .one 1 (skipDigits badDigit) :=
    local_skipDigits badDigit fun _ _ _ h => nomatch h
  have hboth : Local .one 1 (do skipDigits badDigit; skipFraction) :=
    Local.bind hdigits (fun _ => local_skipFraction) (.inr fun _ _ h => h)
  have hzero : Local .one 0 (fun s =>
      if startsWithDigit s then faultAhead .badNumber s else skipFraction s) := by
    refine local_onHead (fun c s =>
      if c.any Char.isDigit = true then faultAhead .badNumber s else skipFraction s) (fun s => ?_)
      fun c => ?_
    · simp only [startsWithDigit_eq]
    · exact local_choice _ (local_faultAhead _ _) local_skipFraction
  refine local_head (fun c s => if c = '0' then
    (if startsWithDigit s then faultAhead .badNumber s else skipFraction s) else
    (do skipDigits badDigit; skipFraction : Reader Unit) (c :: s)) (fun _ _ h => nomatch h)
    (fun c s => ?_) fun c => ?_
  · by_cases hc : c = '0'
    · rw [hc, if_pos rfl, skipNumber]
    · rw [if_neg hc, skipNumber]
      rintro t ht
      cases ht
      exact hc rfl
  · exact local_choice _ hzero (hboth.uncons c)

theorem local_skipStart : Local .one 1 skipStart := by
  have hnumber : Local .one 1 (do skipNumber; pure none : Reader (Option Frame)) :=
    local_skipNumber.map fun _ => none
  have hstring : Local .one 0 (do skipString; pure none : Reader (Option Frame)) :=
    Local.of_none (local_skipString.map fun _ => none).forget
  have hword (letters : List Char) :
      Local .one 0 (keyword (none : Option Frame) letters) := Local.of_none (local_keyword _ _)
  have hopen (frame : Frame) : Local .one 0 (pure (some frame) : Reader (Option Frame)) :=
    Local.of_none (local_pure _)
  refine local_spaced (fun c s =>
    if c = 'n' then keyword none ['u', 'l', 'l'] s
    else if c = 't' then keyword none ['r', 'u', 'e'] s
    else if c = 'f' then keyword none ['a', 'l', 's', 'e'] s
    else if c = '-' then (do skipNumber; pure none : Reader (Option Frame)) s
    else if c.isDigit then (do skipNumber; pure none : Reader (Option Frame)) (c :: s)
    else if c = '"' then (do skipString; pure none : Reader (Option Frame)) s
    else if c = '[' then .ok (some .list, s)
    else if c = '{' then .ok (some .map, s)
    else faultAhead .noValue (c :: s)) ?_ ?_ fun c => ?_
  · intro s a rest hskip h
    simp [skipStart, hskip, faultAhead] at h
  · intro s c t hskip
    simp only [skipStart, hskip]
  · exact local_choice _ (hword _) <| local_choice _ (hword _) <| local_choice _ (hword _) <|
      local_choice _ hnumber.forget <| local_choice _ (hnumber.uncons c) <|
      local_choice _ hstring <| local_choice _ (hopen .list) <| local_choice _ (hopen .map) <|
      local_faultAhead _ _

theorem local_skipKey (frame : Frame) : Local .one 0 (skipKey frame) := by
  cases frame with
  | list => exact Local.of_none (local_pure ())
  | map =>
    have hkey : Local .none 0 (do skipString; colon) :=
      (Local.bind local_skipString (fun _ => local_colon) (.inr fun _ _ h => h)).forget
    have hmap : Local .none 1 (skipKey .map) := by
      refine local_spaced (fun c s => if c = '"' then (do skipString; colon : Reader Unit) s
        else faultAhead .keyNotString (c :: s)) ?_ ?_ fun c => ?_
      · intro s a rest hskip h
        simp [skipKey, hskip, faultAhead] at h
      · intro s c t hskip
        simp only [skipKey, hskip]
      · exact local_choice _ hkey (local_faultAhead _ _)
    exact Local.of_none hmap.forget

theorem local_skipBetween (frames : List Frame) (afterValue : Bool) :
    Local .one 0 (skipBetween frames afterValue) := by
  induction frames generalizing afterValue with
  | nil => exact Local.of_none (local_pure none)
  | cons frame outer ih =>
    have hinside : Local .one 0
        (do skipKey frame; pure (some (frame :: outer)) : Reader (Option (List Frame))) :=
      (local_skipKey frame).map fun _ => some (frame :: outer)
    refine local_peeked (fun c s =>
      if c = ',' ∧ afterValue = true then
        (do skipKey frame; pure (some (frame :: outer)) : Reader (Option (List Frame))) (s.drop 1)
      else if c = frame.closing then skipBetween outer true (s.drop 1)
      else if afterValue then faultAhead frame.noComma s
      else (do skipKey frame; pure (some (frame :: outer)) : Reader (Option (List Frame))) s)
      ?_ ?_ fun c => ?_
    · intro s a rest hskip h
      simp [skipBetween, hskip, faultAhead] at h
    · intro s c t hskip
      simp only [skipBetween, hskip, List.drop_one, List.tail_cons]
    · exact local_choice _ hinside.drop <| local_choice _ (ih true).drop <|
        local_choice _ (local_faultAhead _ _) hinside

def skipTurn (frames : List Frame) : Reader (Option (List Frame)) := do
  match ← skipStart with
  | some frame => skipBetween (frame :: frames) false
  | none => skipBetween frames true

theorem local_skipTurn (frames : List Frame) : Local .one 1 (skipTurn frames) := by
  have hnext (start : Option Frame) : Local .one 0 (match start with
      | some frame => skipBetween (frame :: frames) false
      | none => skipBetween frames true) := by
    cases start with
    | none => exact local_skipBetween frames true
    | some frame => exact local_skipBetween (frame :: frames) false
  exact Local.bind local_skipStart hnext (.inr fun _ _ h => h)

theorem skipWithin_cons (tick : Char) (clock : List Char) (frames : List Frame) :
    skipWithin (tick :: clock) frames = (do
      match ← skipTurn frames with
      | some frames => skipWithin clock frames
      | none => pure ()) := by
  funext s
  rw [skipWithin, skipTurn]
  simp only [bind_run]
  cases skipStart s with
  | error e => rfl
  | ok result =>
    obtain ⟨start, t⟩ := result
    cases start <;> rfl

theorem skipWithin_local (clock : List Char) (frames : List Frame) (s rest : List Char)
    (h : skipWithin clock frames s = .ok ((), rest)) :
    ∃ used, s = used ++ rest ∧ 0 < used.length ∧ ∀ u clock', u.head? = rest.head? →
      used.length ≤ clock'.length → skipWithin clock' frames (used ++ u) = .ok ((), u) := by
  induction clock generalizing frames s with
  | nil => cases h
  | cons tick clock ih =>
    rw [skipWithin_cons] at h
    obtain ⟨next, t, hturn, hrest⟩ := (bind_eq_ok_iff _ _ s () rest).mp h
    obtain ⟨used, rfl, hused, hu⟩ := local_skipTurn frames s next t hturn
    cases next with
    | none =>
      cases hrest
      refine ⟨used, rfl, hused, fun u clock' hk hclock => ?_⟩
      cases clock' with
      | nil =>
        simp only [List.length_nil] at hclock
        omega
      | cons tick clock' =>
        rw [skipWithin_cons]
        exact (bind_eq_ok_iff _ _ _ _ _).mpr ⟨none, u, hu u hk, rfl⟩
    | some frames' =>
      obtain ⟨more, rfl, hmore, hv⟩ := ih frames' t hrest
      refine ⟨used ++ more, (List.append_assoc _ _ _).symm, ?_, fun u clock' hk hclock => ?_⟩
      · rw [List.length_append]
        omega
      · rw [List.length_append] at hclock
        cases clock' with
        | nil =>
          simp only [List.length_nil] at hclock
          omega
        | cons tick clock' =>
          have hrest := hv u clock' hk (by simp only [List.length_cons] at hclock; omega)
          have hfirst := hu (more ++ u) (Lookahead.allows_append .one more rest u hmore)
          rw [List.append_assoc, skipWithin_cons]
          exact (bind_eq_ok_iff _ _ _ _ _).mpr ⟨some frames', more ++ u, hfirst, hrest⟩

theorem local_skip : Local .one 1 skip := by
  intro s done rest h
  obtain ⟨used, rfl, hused, hu⟩ := skipWithin_local s [] s rest h
  exact ⟨used, rfl, hused, fun u hk => hu u (used ++ u) hk (by simp)⟩

end Screening.Json
