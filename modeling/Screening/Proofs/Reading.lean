import Screening.Json.Reader
import Mathlib

/-!
# How far readers look

A reader that succeeds has taken some characters off the text and does the same
when another text follows them, as long as that text looks alike where the
reader looks ahead. A reader of a number has to see where its digits end, and a
reader that stops in front of a character has to see that character.
-/

set_option autoImplicit false

namespace Screening.Json

variable {α β : Type}

theorem bind_run (m : Reader α) (f : α → Reader β) (s : List Char) :
    (m >>= f) s = match m s with
      | .ok (a, rest) => f a rest
      | .error e => .error e := rfl

theorem bind_eq_ok_iff (m : Reader α) (f : α → Reader β) (s : List Char) (b : β)
    (rest : List Char) :
    (m >>= f) s = .ok (b, rest) ↔ ∃ a t, m s = .ok (a, t) ∧ f a t = .ok (b, rest) := by
  rw [bind_run]
  cases m s with
  | error e => simp
  | ok result =>
    obtain ⟨a, t⟩ := result
    simp

theorem map_eq_ok_iff (f : α → β) (m : Reader α) (s : List Char) (b : β) (rest : List Char) :
    (f <$> m) s = .ok (b, rest) ↔ ∃ a, m s = .ok (a, rest) ∧ f a = b := by
  show (m >>= fun a => pure (f a)) s = _ ↔ _
  rw [bind_eq_ok_iff]
  constructor
  · rintro ⟨a, t, hm, hp⟩
    cases hp
    exact ⟨a, hm, rfl⟩
  · rintro ⟨a, hm, rfl⟩
    exact ⟨a, rest, hm, rfl⟩

inductive Lookahead where
  /-- It looks at nothing. -/
  | none
  /-- It looks whether a number goes on. -/
  | number
  /-- It looks at the next character. -/
  | one

def goesOn (c : Char) : Bool := c.isDigit || c = '.' || isExponentMark c

def Lookahead.Allows : Lookahead → List Char → List Char → Prop
  | none, _, _ => True
  | number, rest, u => u.head? = rest.head? ∨ u.head?.all (fun c => !goesOn c) = true
  | one, rest, u => u.head? = rest.head?

theorem Lookahead.allows_of_head (l : Lookahead) (rest u : List Char)
    (h : u.head? = rest.head?) : l.Allows rest u := by
  cases l with
  | none => trivial
  | number => exact .inl h
  | one => exact h

theorem Lookahead.allows_append (l : Lookahead) (used rest u : List Char)
    (hpos : 0 < used.length) : l.Allows (used ++ rest) (used ++ u) := by
  apply allows_of_head
  cases used with
  | nil => simp at hpos
  | cons c used => rfl

/-- A reader takes at least some characters, and takes them again before every text
that its lookahead allows. -/
def Local (l : Lookahead) (least : ℕ) (reader : Reader α) : Prop :=
  ∀ s a rest, reader s = .ok (a, rest) →
    ∃ used, s = used ++ rest ∧ least ≤ used.length ∧
      ∀ u, l.Allows rest u → reader (used ++ u) = .ok (a, u)

theorem Local.weaken {l k : Lookahead} {m n : ℕ} {reader : Reader α} (h : Local l m reader)
    (hlook : ∀ rest u, k.Allows rest u → l.Allows rest u) (hle : n ≤ m) :
    Local k n reader := by
  intro s a rest hs
  obtain ⟨used, rfl, hused, hu⟩ := h s a rest hs
  exact ⟨used, rfl, hle.trans hused, fun u hk => hu u (hlook rest u hk)⟩

theorem Local.of_none {k : Lookahead} {m : ℕ} {reader : Reader α} (h : Local .none m reader) :
    Local k m reader :=
  h.weaken (fun _ _ _ => trivial) le_rfl

theorem Local.forget {l : Lookahead} {m : ℕ} {reader : Reader α} (h : Local l m reader) :
    Local l 0 reader :=
  h.weaken (fun _ _ hk => hk) (Nat.zero_le m)

theorem local_pure (a : α) : Local .none 0 (pure a : Reader α) := by
  intro s b rest h
  cases h
  exact ⟨[], rfl, le_rfl, fun u _ => rfl⟩

theorem local_failing {l : Lookahead} {m : ℕ} {reader : Reader α}
    (h : ∀ s a rest, reader s ≠ .ok (a, rest)) : Local l m reader := by
  intro s a rest hs
  exact absurd hs (h s a rest)

theorem local_ite {l : Lookahead} {m : ℕ} (p : Prop) [Decidable p] {first second : Reader α}
    (hfirst : Local l m first) (hsecond : Local l m second) :
    Local l m (if p then first else second) := by
  split
  · exact hfirst
  · exact hsecond

theorem local_choice {l : Lookahead} {m : ℕ} (p : Prop) [Decidable p] {first second : Reader α}
    (hfirst : Local l m first) (hsecond : Local l m second) :
    Local l m (fun s => if p then first s else second s) := by
  split
  · exact hfirst
  · exact hsecond

/-- One reader after another; the first may look into what the second takes. -/
theorem Local.bind {l k : Lookahead} {m n : ℕ} {first : Reader α} {second : α → Reader β}
    (hfirst : Local l m first) (hsecond : ∀ a, Local k n (second a))
    (hlook : 0 < n ∨ ∀ rest u, k.Allows rest u → l.Allows rest u) :
    Local k (m + n) (first >>= second) := by
  intro s b rest hs
  obtain ⟨a, t, ha, hb⟩ := (bind_eq_ok_iff first second s b rest).mp hs
  obtain ⟨used, rfl, hm, hu⟩ := hfirst s a t ha
  obtain ⟨more, rfl, hn, hv⟩ := hsecond a t b rest hb
  refine ⟨used ++ more, (List.append_assoc _ _ _).symm, ?_, ?_⟩
  · rw [List.length_append]
    omega
  · intro u hk
    have hallows : l.Allows (more ++ rest) (more ++ u) := by
      by_cases hmore : 0 < more.length
      · exact l.allows_append more rest u hmore
      · have hnil : more = [] := List.length_eq_zero_iff.mp (by omega)
        rcases hlook with hpos | hlook
        · omega
        · rw [hnil]
          exact hlook rest u hk
    rw [List.append_assoc, bind_eq_ok_iff]
    exact ⟨a, more ++ u, hu _ hallows, hv u hk⟩

theorem Local.map {l : Lookahead} {m : ℕ} {reader : Reader α} (h : Local l m reader) (f : α → β) :
    Local l m (f <$> reader) := by
  intro s b rest hs
  obtain ⟨a, ha, rfl⟩ := (map_eq_ok_iff f reader s b rest).mp hs
  obtain ⟨used, rfl, hm, hu⟩ := h s a rest ha
  refine ⟨used, rfl, hm, fun u hk => ?_⟩
  rw [map_eq_ok_iff]
  exact ⟨a, hu u hk, rfl⟩

/-- A reader that goes on by its first character, which it takes. -/
theorem local_head {l : Lookahead} {m : ℕ} {reader : Reader α} (next : Char → Reader α)
    (hnil : ∀ a rest, reader [] ≠ .ok (a, rest))
    (hcons : ∀ c s, reader (c :: s) = next c s) (hnext : ∀ c, Local l m (next c)) :
    Local l (m + 1) reader := by
  intro s a rest hs
  cases s with
  | nil => exact absurd hs (hnil a rest)
  | cons c s =>
    rw [hcons] at hs
    obtain ⟨used, rfl, hm, hu⟩ := hnext c s a rest hs
    refine ⟨c :: used, rfl, by simpa using hm, fun u hk => ?_⟩
    rw [List.cons_append, hcons]
    exact hu u hk

theorem skipSpace_cons (s : List Char) (c : Char) (t : List Char) (h : skipSpace s = c :: t) :
    ∃ before, s = before ++ c :: t ∧ ∀ u, skipSpace (before ++ c :: u) = c :: u := by
  have hbefore : ∀ d ∈ s.takeWhile isSpace, isSpace d = true :=
    List.all_eq_true.mp List.all_takeWhile
  have hspace : ¬ isSpace c = true := by
    have hhead := List.head?_dropWhile_not isSpace s
    rw [← skipSpace, h] at hhead
    simpa using hhead
  refine ⟨s.takeWhile isSpace, ?_, fun u => ?_⟩
  · rw [← h]
    exact List.takeWhile_append_dropWhile.symm
  · rw [skipSpace, List.dropWhile_append_of_pos hbefore, List.dropWhile_cons_of_neg hspace]

/-- A reader that passes over white space and goes on by the character after it. -/
theorem local_spaced {l : Lookahead} {m : ℕ} {reader : Reader α} (next : Char → Reader α)
    (hnil : ∀ s a rest, skipSpace s = [] → reader s ≠ .ok (a, rest))
    (hcons : ∀ s c t, skipSpace s = c :: t → reader s = next c t)
    (hnext : ∀ c, Local l m (next c)) : Local l (m + 1) reader := by
  intro s a rest hs
  cases hskip : skipSpace s with
  | nil => exact absurd hs (hnil s a rest hskip)
  | cons c t =>
    obtain ⟨before, rfl, hagain⟩ := skipSpace_cons s c t hskip
    rw [hcons _ c t hskip] at hs
    obtain ⟨used, rfl, hm, hu⟩ := hnext c t a rest hs
    refine ⟨before ++ c :: used, by simp, ?_, fun u hk => ?_⟩
    · rw [List.length_append, List.length_cons]
      omega
    · rw [List.append_assoc, List.cons_append, hcons _ c (used ++ u) (hagain _)]
      exact hu u hk

end Screening.Json
