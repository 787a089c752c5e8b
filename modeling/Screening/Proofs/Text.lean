import Screening.Text.Blank
import Screening.Text.Case
import Mathlib

/-!
# Texts in the ASCII range, and texts with blanks around them

On the first hundred and twenty-eight characters the full lower case is the one
that names and keywords are compared by, and no other character is folded into
that range. So a text that equals an ASCII keyword up to the case of A to Z has
that keyword as its lower case. Folding changes letters only, and trimming does
not see blanks that are added on either side.
-/

set_option autoImplicit false

namespace Screening.Text

theorem lowerChar_ofNat : ∀ n < 128,
    lowerChar (Char.ofNat n) = [foldCase (Char.ofNat n)] := by
  decide +kernel

theorem lowerChar_ascii (c : Char) (h : c.toNat < 128) : lowerChar c = [foldCase c] := by
  have hc := lowerChar_ofNat c.toNat h
  rwa [Char.ofNat_toNat] at hc

theorem ascii_of_foldCase (c : Char) (h : (foldCase c).toNat < 128) : c.toNat < 128 := by
  by_cases hu : c.isUpper = true
  · simp only [Char.isUpper, decide_eq_true_eq] at hu
    have hz : c.toNat ≤ 90 := hu.2
    omega
  · rwa [foldCase, Char.toLower_eq_of_not_isUpper hu] at h

theorem lowerChars_ascii (cs : List Char) (h : ∀ c ∈ cs.map foldCase, c.toNat < 128) :
    lowerChars cs = cs.map foldCase := by
  induction cs with
  | nil => rfl
  | cons c cs ih =>
    have hc := lowerChar_ascii c (ascii_of_foldCase c (h _ (by simp)))
    have hcs := ih (fun d hd => h d (by simp [hd]))
    rw [lowerChars] at hcs ⊢
    rw [List.flatMap_cons, hc, hcs]
    rfl

/-- What does not tell the letters A to Z from their lower case is not changed by folding. -/
theorem apply_foldCase {α : Type} (f : Char → α)
    (hletter : ∀ n < 26, f (Char.ofNat (97 + n)) = f (Char.ofNat (65 + n))) (c : Char) :
    f (foldCase c) = f c := by
  by_cases hupper : c.isUpper = true
  · have hrange : 65 ≤ c.toNat ∧ c.toNat ≤ 90 := by
      simp only [Char.isUpper, decide_eq_true_eq] at hupper
      exact hupper
    have hc : Char.ofNat (65 + (c.toNat - 65)) = c := by
      rw [Nat.add_sub_cancel' hrange.1, Char.ofNat_toNat]
    have hfold : foldCase c = Char.ofNat (97 + (c.toNat - 65)) := by
      rw [foldCase, Char.toLower_eq_of_isUpper hupper]
      congr 1
      omega
    rw [hfold, hletter _ (by omega), hc]
  · rw [foldCase, Char.toLower_eq_of_not_isUpper hupper]

theorem isDigit_foldCase (c : Char) : (foldCase c).isDigit = c.isDigit :=
  apply_foldCase Char.isDigit (by decide) c

theorem isBlank_foldCase (c : Char) : isBlank (foldCase c) = isBlank c :=
  apply_foldCase isBlank (by decide) c

theorem lowerChar_foldCase (c : Char) : lowerChar (foldCase c) = lowerChar c :=
  apply_foldCase lowerChar (by decide +kernel) c

theorem lowerChars_foldCase (cs : List Char) : lowerChars (cs.map foldCase) = lowerChars cs := by
  rw [lowerChars, lowerChars, List.flatMap_map]
  exact List.flatMap_congr fun c _ => lowerChar_foldCase c

theorem not_isDigit_of_isAlpha (c : Char) (hc : c.isAlpha = true) : ¬ c.isDigit = true := by
  intro hdigit
  simp only [Char.isDigit, Char.isAlpha, Char.isUpper, Char.isLower, Bool.or_eq_true,
    Bool.and_eq_true, decide_eq_true_eq, ge_iff_le, UInt32.le_iff_toNat_le] at hc hdigit
  change 48 ≤ c.toNat ∧ c.toNat ≤ 57 at hdigit
  change (65 ≤ c.toNat ∧ c.toNat ≤ 90) ∨ (97 ≤ c.toNat ∧ c.toNat ≤ 122) at hc
  omega

theorem not_isAlpha_of_isDigit (c : Char) (hc : c.isDigit = true) : c.isAlpha = false := by
  rw [← Bool.not_eq_true]
  exact fun halpha => not_isDigit_of_isAlpha c halpha hc

theorem foldCase_eq_iff (c d : Char) (hd : d.isAlpha = false) : foldCase c = d ↔ c = d := by
  have hsame (b : Char) (hb : b.isAlpha = false) : foldCase b = b := by
    refine Char.toLower_eq_of_not_isUpper fun hupper => ?_
    rw [Char.isAlpha, hupper, Bool.true_or] at hb
    cases hb
  constructor
  · rintro rfl
    rw [foldCase, Char.isAlpha_toLower_eq_isAlpha] at hd
    exact (hsame c hd).symm
  · rintro rfl
    exact hsame c hd

theorem foldCase_of_isDigit (c : Char) (hc : c.isDigit = true) : foldCase c = c :=
  (foldCase_eq_iff c c (not_isAlpha_of_isDigit c hc)).mpr rfl

theorem map_foldCase_eq_self (cs : List Char) (h : ∀ c ∈ cs.map foldCase, c.isAlpha = false) :
    cs.map foldCase = cs := by
  refine (List.map_congr_left fun c hc => ?_).trans (List.map_id cs)
  exact ((foldCase_eq_iff c _ (h _ (List.mem_map_of_mem hc))).mp rfl).symm

theorem trimChars_blank (cs : List Char) (h : cs.all isBlank = true) : trimChars cs = [] := by
  have hstart : cs.dropWhile isBlank = [] := by
    rw [List.dropWhile_eq_nil_iff]
    exact List.all_eq_true.mp h
  rw [trimChars, trimStart, hstart]
  rfl

theorem trimChars_eq_nil_iff (cs : List Char) : trimChars cs = [] ↔ cs.all isBlank = true := by
  refine ⟨fun h => ?_, trimChars_blank cs⟩
  cases hstart : trimStart cs with
  | nil => exact List.all_eq_true.mpr (List.dropWhile_eq_nil_iff.mp hstart)
  | cons c rest =>
    rw [trimChars, hstart, trimEnd, List.reverse_eq_nil_iff, List.dropWhile_eq_nil_iff] at h
    have hc := List.head?_dropWhile_not isBlank cs
    rw [← trimStart, hstart] at hc
    exact absurd (h c (by simp)) (by simpa using hc)

theorem trim_eq_empty_iff (s : String) : trim s = "" ↔ s.toList.all isBlank = true := by
  rw [← String.toList_inj, toList_trim, String.toList_empty, trimChars_eq_nil_iff]

theorem trimChars_append_blank (cs q : List Char) (hq : q.all isBlank = true) :
    trimChars (cs ++ q) = trimChars cs := by
  have hend (r : List Char) : trimEnd (r ++ q) = trimEnd r := by
    rw [trimEnd, trimEnd, List.reverse_append, List.dropWhile_append_of_pos]
    simpa using hq
  rw [trimChars, trimChars, trimStart, trimStart, List.dropWhile_append]
  split
  · next hblank =>
    rw [List.isEmpty_iff.mp hblank, List.dropWhile_eq_nil_iff.mpr (List.all_eq_true.mp hq)]
  · exact hend _

theorem trimChars_append (p cs q : List Char) (hp : p.all isBlank = true)
    (hq : q.all isBlank = true) : trimChars (p ++ cs ++ q) = trimChars cs := by
  rw [trimChars_append_blank _ q hq, trimChars, trimChars, trimStart,
    List.dropWhile_append_of_pos (List.all_eq_true.mp hp)]
  rfl

theorem trimChars_map_foldCase (cs : List Char) :
    trimChars (cs.map foldCase) = (trimChars cs).map foldCase := by
  have hblank : isBlank ∘ foldCase = isBlank := funext isBlank_foldCase
  simp only [trimChars, trimEnd, trimStart, List.dropWhile_map, hblank, ← List.map_reverse]

/-- A character at the end that is no blank stops the trimming there. -/
theorem trimChars_concat (cs : List Char) (c : Char) (hc : isBlank c = false) :
    trimChars (cs ++ [c]) = trimStart cs ++ [c] := by
  have hstart : trimStart (cs ++ [c]) = trimStart cs ++ [c] := by
    rw [trimStart, trimStart, List.dropWhile_append]
    split
    · next hblank =>
      rw [List.isEmpty_iff.mp hblank, List.dropWhile_cons_of_neg (by simp [hc]), List.nil_append]
    · rfl
  rw [trimChars, hstart, trimEnd, List.reverse_concat,
    List.dropWhile_cons_of_neg (by simp [hc]), List.reverse_cons, List.reverse_reverse]

theorem trimChars_trimStart (cs : List Char) : trimChars (trimStart cs) = trimChars cs := by
  rw [trimChars, trimChars, trimStart, trimStart, List.dropWhile_idempotent]

end Screening.Text
