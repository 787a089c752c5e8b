import Screening.Proofs.Text

/-!
# The lower case of a lower case

The characters that have another lower case come in runs. No run maps into another
one, nor onto the one character whose lower case is two characters. So what a
lower case consists of is its own lower case.
-/

set_option autoImplicit false

namespace Screening.Text

/-- What a run maps to is not covered by another: it lies beyond its ends, or between
the characters of a run that takes every second one. -/
def CaseRun.misses (run other : CaseRun) : Bool :=
  (run.last + run.shift).toNat < other.first || other.last < (run.first + run.shift).toNat ||
    ((run.step == 2 || run.first == run.last) && other.step == 2 &&
      (run.first + run.shift - other.first) % 2 == 1)

def dottedRun : CaseRun := ⟨0x130, 0x130, 1, 0⟩

theorem lowerRuns_miss :
    lowerRuns.all (fun run => (dottedRun :: lowerRuns).all run.misses) = true := by
  decide +kernel

theorem first_pos : ∀ run ∈ dottedRun :: lowerRuns, 0 < run.first := by
  decide +kernel

theorem CaseRun.toNat_apply (run : CaseRun) (n : ℕ) :
    (run.apply n).toNat = (n + run.shift).toNat ∨ (run.apply n).toNat = 0 := by
  rw [apply, Char.toNat_ofNat]
  split
  · exact .inl rfl
  · exact .inr rfl

theorem CaseRun.not_covers_apply (run other : CaseRun) (n : ℕ) (hn : run.covers n = true)
    (hmiss : run.misses other = true) (hfirst : 0 < other.first) :
    ¬ other.covers (run.apply n).toNat = true := by
  intro hcovers
  have hmap := run.toNat_apply n
  simp only [covers, Bool.and_eq_true, decide_eq_true_eq, beq_iff_eq] at hn hcovers
  simp only [misses, Bool.or_eq_true, Bool.and_eq_true, decide_eq_true_eq, beq_iff_eq] at hmiss
  obtain ⟨⟨hfrom, hto⟩, hstep⟩ := hn
  obtain ⟨⟨hfrom', hto'⟩, hstep'⟩ := hcovers
  rcases hmiss with (hbelow | habove) | ⟨⟨hsecond, htwo⟩, hodd⟩
  · omega
  · omega
  · rw [htwo] at hstep'
    rcases hsecond with hsecond | hsingle
    · rw [hsecond] at hstep
      omega
    · omega

theorem lowerChar_of_uncovered (c : Char)
    (h : ∀ run ∈ dottedRun :: lowerRuns, ¬ run.covers c.toNat = true) : lowerChar c = [c] := by
  have hdotted : c ≠ '\u0130' := by
    rintro rfl
    exact h dottedRun List.mem_cons_self (by decide)
  have hnone : lowerRuns.find? (·.covers c.toNat) = none :=
    List.find?_eq_none.mpr fun run hrun => h run (List.mem_cons_of_mem _ hrun)
  rw [lowerChar, if_neg hdotted, shiftCase, hnone]

/-- What a lower case consists of is its own lower case. -/
theorem lowerChar_of_mem (c d : Char) (h : d ∈ lowerChar c) : lowerChar d = [d] := by
  by_cases hdotted : c = '\u0130'
  · rw [lowerChar, if_pos hdotted] at h
    rcases List.mem_pair.mp h with rfl | rfl
    · exact lowerChar_ascii 'i' (by decide)
    · decide +kernel
  · have hlower : lowerChar c = [shiftCase lowerRuns c] := if_neg hdotted
    rw [hlower, List.mem_singleton] at h
    cases hfind : lowerRuns.find? (·.covers c.toNat) with
    | none =>
      have hself : shiftCase lowerRuns c = c := by rw [shiftCase, hfind]
      rw [h, hself, hlower, hself]
    | some run =>
      have hmap : shiftCase lowerRuns c = run.apply c.toNat := by rw [shiftCase, hfind]
      rw [h, hmap]
      refine lowerChar_of_uncovered _ fun other hother => ?_
      have hcovers := List.find?_some hfind
      have hmiss := List.all_eq_true.mp (List.all_eq_true.mp lowerRuns_miss run
        (List.mem_of_find?_eq_some hfind)) other hother
      exact run.not_covers_apply other c.toNat hcovers hmiss (first_pos other hother)

theorem lowerChars_eq_self (cs : List Char) (h : ∀ c ∈ cs, lowerChar c = [c]) :
    lowerChars cs = cs :=
  (List.flatMap_congr h).trans (List.flatMap_singleton' cs)

end Screening.Text
