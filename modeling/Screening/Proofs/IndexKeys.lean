import Screening.IndexKey
import Screening.Proofs.LowerCase

/-!
# Keys of index names

A key holds letters and numbers in lower case and does not hold `sandp`. Such a
text is its own key, so that to make a key is a projection. The replacement of
`sandp` goes from left to right, but the five letters all differ: no two
occurrences overlap, and none is made or lost where one was replaced. So the
spellings of `S&P` have the same key in all surroundings.
-/

set_option autoImplicit false

namespace Screening

open Text

def IsKeyChar (c : Char) : Prop := isAlphanumeric c = true ∧ lowerChar c = [c]

theorem isKeyChar_of_mem_compactName (cs : List Char) (c : Char) (h : c ∈ compactName cs) :
    IsKeyChar c := by
  obtain ⟨hlower, halphanumeric⟩ := List.mem_filter.mp h
  obtain ⟨d, -, hd⟩ := List.mem_flatMap.mp hlower
  exact ⟨halphanumeric, lowerChar_of_mem d c hd⟩

theorem compactName_eq_self (cs : List Char) (h : ∀ c ∈ cs, IsKeyChar c) : compactName cs = cs := by
  rw [compactName, lowerChars_eq_self cs fun c hc => (h c hc).2]
  exact List.filter_eq_self.mpr fun c hc => (h c hc).1

theorem compactName_append (cs ds : List Char) :
    compactName (cs ++ ds) = compactName cs ++ compactName ds := by
  simp [compactName, lowerChars]

theorem compactName_eq_flatMap (cs : List Char) :
    compactName cs = cs.flatMap fun c => (lowerChar c).filter isAlphanumeric :=
  List.filter_flatMap

theorem contractAnd_sublist (cs : List Char) : (contractAnd cs).Sublist cs := by
  fun_induction contractAnd cs with
  | case1 rest ih =>
    exact .cons_cons 's' (.cons 'a' (.cons 'n' (.cons 'd' (.cons_cons 'p' ih))))
  | case2 c rest _ ih => exact .cons_cons c ih
  | case3 => exact .slnil

/-- A replacement changes no letter before the first `s`. -/
theorem contractAnd_eq_cons (cs ds : List Char) (c : Char) (hc : c ≠ 's')
    (h : contractAnd cs = c :: ds) : ∃ rest, cs = c :: rest ∧ contractAnd rest = ds := by
  fun_induction contractAnd cs with
  | case1 rest =>
    exact absurd (List.cons.inj h).1.symm hc
  | case2 d rest _ =>
    obtain ⟨rfl, hrest⟩ := List.cons.inj h
    exact ⟨rest, rfl, hrest⟩
  | case3 => cases h

theorem prefix_of_prefix_contractAnd (pre cs : List Char) (hpre : 's' ∉ pre)
    (h : pre <+: contractAnd cs) : pre <+: cs := by
  induction pre generalizing cs with
  | nil => exact List.nil_prefix
  | cons c pre ih =>
    obtain ⟨ds, hds⟩ := h
    have hc : c ≠ 's' := fun hc => hpre (hc ▸ List.mem_cons_self)
    obtain ⟨rest, rfl, hrest⟩ := contractAnd_eq_cons cs (pre ++ ds) c hc hds.symm
    have hsuffix := ih rest (fun hs => hpre (List.mem_cons_of_mem c hs)) ⟨ds, hrest.symm⟩
    exact List.cons_prefix_cons.mpr ⟨rfl, hsuffix⟩

def spelledAnd : List Char := ['s', 'a', 'n', 'd', 'p']

theorem not_infix_contractAnd (cs : List Char) : ¬ spelledAnd <:+: contractAnd cs := by
  fun_induction contractAnd cs with
  | case1 rest ih =>
    intro h
    rcases List.infix_cons_iff.mp h with hprefix | hinfix
    · simp [spelledAnd] at hprefix
    · rcases List.infix_cons_iff.mp hinfix with hprefix | hinfix
      · simp [spelledAnd] at hprefix
      · exact ih hinfix
  | case2 c rest hrest ih =>
    intro h
    rcases List.infix_cons_iff.mp h with hprefix | hinfix
    · obtain ⟨rfl, hand⟩ := List.cons_prefix_cons.mp hprefix
      obtain ⟨ds, hds⟩ := prefix_of_prefix_contractAnd ['a', 'n', 'd', 'p'] rest (by decide) hand
      exact hrest ds rfl hds.symm
    · exact ih hinfix
  | case3 => simp [spelledAnd]

theorem contractAnd_eq_self (cs : List Char) (h : ¬ spelledAnd <:+: cs) : contractAnd cs = cs := by
  fun_induction contractAnd cs with
  | case1 rest => exact absurd (List.prefix_append spelledAnd rest).isInfix h
  | case2 c rest _ ih => rw [ih fun hinfix => h (List.infix_cons hinfix)]
  | case3 => rfl

theorem prefix_of_prefix_append (pre cs ds : List Char) (h : pre <+: cs ++ ds)
    (hds : ∀ d ∈ ds.head?, d ∉ pre) : pre <+: cs := by
  induction pre generalizing cs with
  | nil => exact List.nil_prefix
  | cons c pre ih =>
    cases cs with
    | nil =>
      obtain ⟨rest, hrest⟩ := h
      rw [List.nil_append] at hrest
      exact absurd List.mem_cons_self (hds c (by simp [← hrest]))
    | cons b cs =>
      obtain ⟨rfl, hpre⟩ := List.cons_prefix_cons.mp h
      refine List.cons_prefix_cons.mpr ⟨rfl, ih cs hpre fun d hd hmem => ?_⟩
      exact hds d hd (List.mem_cons_of_mem _ hmem)

/-- No occurrence reaches into a text that does not begin with one of the letters that
follow the `s`. -/
theorem contractAnd_append (cs ds : List Char) (h : ∀ d ∈ ds.head?, d ∉ ['a', 'n', 'd', 'p']) :
    contractAnd (cs ++ ds) = contractAnd cs ++ contractAnd ds := by
  fun_induction contractAnd cs with
  | case1 rest ih => simp only [List.cons_append, contractAnd, ih]
  | case2 c rest hrest ih =>
    rw [List.cons_append, contractAnd, ih, List.cons_append]
    intro tail hc htail
    obtain ⟨found, hfound⟩ :=
      prefix_of_prefix_append ['a', 'n', 'd', 'p'] rest ds ⟨tail, htail.symm⟩ h
    exact hrest found hc hfound.symm
  | case3 => rfl

/-- Only letters and numbers in lower case, and `sandp` nowhere among them. -/
structure IsKey (key : String) : Prop where
  chars : ∀ c ∈ key.toList, IsKeyChar c
  contracted : ¬ spelledAnd <:+: key.toList

theorem toList_indexKey (name : String) :
    (indexKey name).toList = contractAnd (compactName name.toList) :=
  String.toList_ofList

theorem isKey_indexKey (name : String) : IsKey (indexKey name) where
  chars c hc := by
    rw [toList_indexKey] at hc
    exact isKeyChar_of_mem_compactName name.toList c ((contractAnd_sublist _).mem hc)
  contracted := by
    rw [toList_indexKey]
    exact not_infix_contractAnd (compactName name.toList)

theorem IsKey.indexKey_eq (key : String) (h : IsKey key) : indexKey key = key := by
  rw [indexKey, compactName_eq_self key.toList h.chars, contractAnd_eq_self key.toList h.contracted,
    String.ofList_toList]

/-- Keys are the texts of letters and numbers in lower case without `sandp`. The key of
any name is one, they are their own keys, and no other text is. -/
theorem indexKey_projection (name : String) :
    IsKey (indexKey name) ∧ (indexKey name = name ↔ IsKey name) ∧
      indexKey (indexKey name) = indexKey name := by
  have hkey := isKey_indexKey name
  refine ⟨hkey, ⟨fun hself => ?_, fun h => h.indexKey_eq name⟩, hkey.indexKey_eq (indexKey name)⟩
  rw [← hself]
  exact hkey

/-- A character that leaves nothing in a key, such as a blank, an ampersand or a hyphen. -/
def isSeparator (c : Char) : Bool := (lowerChar c).all fun d => !isAlphanumeric d

theorem filter_lowerChar_separator (c : Char) (h : isSeparator c = true) :
    (lowerChar c).filter isAlphanumeric = [] := by
  rw [List.filter_eq_nil_iff]
  intro d hd
  simpa using List.all_eq_true.mp h d hd

theorem compactName_filter (cs : List Char) :
    compactName (cs.filter fun c => !isSeparator c) = compactName cs := by
  simp only [compactName_eq_flatMap]
  induction cs with
  | nil => rfl
  | cons c cs ih =>
    by_cases hc : isSeparator c = true
    · simp [hc, ih, filter_lowerChar_separator c hc]
    · simp [hc, ih]

theorem compactName_separators (cs : List Char) (h : cs.all isSeparator = true) :
    compactName cs = [] := by
  have hnone : (cs.filter fun c => !isSeparator c) = [] := by
    rw [List.filter_eq_nil_iff]
    intro c hc
    simp [List.all_eq_true.mp h c hc]
  rw [← compactName_filter, hnone]
  rfl

theorem compactName_map_foldCase (cs : List Char) :
    compactName (cs.map foldCase) = compactName cs := by
  rw [compactName, lowerChars_foldCase, compactName]

theorem compactName_sameFolded (s t : String) (h : sameFolded s t = true) :
    compactName s.toList = compactName t.toList := by
  rw [← compactName_map_foldCase, (sameFolded_iff s t).mp h, compactName_map_foldCase]

def spelling (name : String) : List Char :=
  (name.toList.filter fun c => !isSeparator c).map foldCase

theorem compactName_spelling (name : String) :
    compactName (spelling name) = compactName name.toList := by
  rw [spelling, compactName_map_foldCase, compactName_filter]

theorem indexKey_congr (name other : String)
    (h : compactName name.toList = compactName other.toList) : indexKey name = indexKey other := by
  rw [indexKey, h, indexKey]

/-- A part of a name that is `sandp` or `sp` without its separators stands for `sp`
between the keys of the parts around it. -/
theorem indexKey_around (x m y : String)
    (hm : compactName m.toList = spelledAnd ∨ compactName m.toList = ['s', 'p']) :
    indexKey (x ++ m ++ y) = indexKey x ++ "sp" ++ indexKey y := by
  rw [← String.toList_inj]
  simp only [String.toList_append, toList_indexKey, compactName_append, List.append_assoc]
  rcases hm with hm | hm
  · rw [hm, contractAnd_append _ _ (by simp [spelledAnd])]
    simp [spelledAnd, contractAnd]
  · rw [hm, contractAnd_append _ _ (by simp)]
    simp [contractAnd]

theorem compactName_letters (s p conj : String) (hs : sameFolded s "s" = true)
    (hp : sameFolded p "p" = true) (hconj : sameFolded conj "and" = true) :
    compactName s.toList = ['s'] ∧ compactName p.toList = ['p'] ∧
      compactName conj.toList = ['a', 'n', 'd'] := by
  rw [compactName_sameFolded s "s" hs, compactName_sameFolded p "p" hp,
    compactName_sameFolded conj "and" hconj]
  decide +kernel

/-- However `S&P` is spelled inside a name, with `and` or without, in any case and with
any separators, it stands for `sp` between the keys of what is before and after it. Names
that differ only in separators and in the case of letters have one key. -/
theorem indexKey_spellings (x y s t p q conj u v w : String)
    (hs : sameFolded s "s" = true) (ht : sameFolded t "s" = true)
    (hp : sameFolded p "p" = true) (hq : sameFolded q "p" = true)
    (hconj : sameFolded conj "and" = true)
    (hseparators : ∀ r ∈ [u, v, w], r.toList.all isSeparator = true) :
    indexKey (x ++ s ++ u ++ conj ++ v ++ p ++ y) = indexKey (x ++ t ++ w ++ q ++ y) ∧
      indexKey (x ++ t ++ w ++ q ++ y) = indexKey x ++ "sp" ++ indexKey y ∧
      (∀ front back r : String, r.toList.all isSeparator = true →
        indexKey (front ++ r ++ back) = indexKey (front ++ back)) ∧
      ∀ name other : String, spelling name = spelling other → indexKey name = indexKey other := by
  have hnone (r : String) (hr : r ∈ [u, v, w]) : compactName r.toList = [] :=
    compactName_separators r.toList (hseparators r hr)
  obtain ⟨hs, hp, hconj⟩ := compactName_letters s p conj hs hp hconj
  obtain ⟨ht, hq, -⟩ := compactName_letters t q "and" ht hq (by decide)
  have hand := indexKey_around x (s ++ u ++ conj ++ v ++ p) y
    (.inl (by simp [compactName_append, hs, hp, hconj, hnone, spelledAnd]))
  have hampersand := indexKey_around x (t ++ w ++ q) y
    (.inr (by simp [compactName_append, ht, hq, hnone]))
  simp only [← String.append_assoc] at hand hampersand
  refine ⟨hand.trans hampersand.symm, hampersand, fun front back r hr => ?_, fun name other h => ?_⟩
  · refine indexKey_congr _ _ ?_
    simp [compactName_append, compactName_separators r.toList hr]
  · refine indexKey_congr name other ?_
    rw [← compactName_spelling, h, compactName_spelling]

/-- Among pieces of the pattern, and with separators that are no blanks. -/
theorem indexKey_spellings_sand :
    sameFolded "S" "s" = true ∧ sameFolded "s" "s" = true ∧ sameFolded "p" "p" = true ∧
      sameFolded "P" "p" = true ∧ sameFolded "And" "and" = true ∧
      (∀ r ∈ [" ", "-", " & "], r.toList.all isSeparator = true) ∧
      indexKey ("The sand" ++ "S" ++ " " ++ "And" ++ "-" ++ "p" ++ "andp 100") =
        indexKey ("The sand" ++ "s" ++ " & " ++ "P" ++ "andp 100") := by
  have hcase : sameFolded "S" "s" = true ∧ sameFolded "s" "s" = true ∧ sameFolded "p" "p" = true ∧
      sameFolded "P" "p" = true ∧ sameFolded "And" "and" = true := by decide
  have hseparators : ∀ r ∈ [" ", "-", " & "], r.toList.all isSeparator = true := by decide +kernel
  obtain ⟨hs, ht, hp, hq, hconj⟩ := hcase
  exact ⟨hs, ht, hp, hq, hconj, hseparators,
    (indexKey_spellings "The sand" "andp 100" "S" "s" "p" "P" "And" " " "-" " & "
      hs ht hp hq hconj hseparators).1⟩

end Screening
