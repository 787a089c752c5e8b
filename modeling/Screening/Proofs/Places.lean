import Screening.Proofs.Exchange
import Screening.Proofs.Layout
import Screening.Proofs.MemberExtent

/-!
# Where a member stands

The text of an object leads up to the value of its first member with a key, over the
values of the members before it, whatever they are. A place that is found so does not
depend on what stands there. In the text of a request it is the place of the records
that are read, and from a text that is read as any value the same value is read there.
-/

set_option autoImplicit false

namespace Screening

open Json

namespace Json

/-- What stands behind the colon of the next member with a key. The values of the members
before it are passed over, whatever they are. -/
def memberWithin? (key : String) : List Char → Bool → List Char → Option (List Char)
  | [], _, _ => none
  | _ :: clock, first, s => match nextKey first s with
    | .ok (some found, t) => match colon t with
      | .ok ((), u) =>
        if found = key then some u else memberWithin? key clock false (valueEnd .plain 0 u)
      | .error _ => none
    | _ => none

/-- What stands behind the colon of the first member with a key, in the text of an object. -/
def memberStart? (key : String) (s : List Char) : Option (List Char) :=
  match skipSpace s with
  | '{' :: t => memberWithin? key t true t
  | _ => none

/-- The text of the value of the first member with a key, in the text of an object. -/
def memberSource? (key text : String) : Option String :=
  (memberStart? key text.toList).bind fun s =>
    (sourced (value 126) (skipSpace s)).toOption.map fun found => String.ofList found.1.1

theorem memberWithin_eq_some (key : String) (tick : Char) (clock : List Char) (first : Bool)
    (s u : List Char) (h : memberWithin? key (tick :: clock) first s = some u) :
    ∃ found t v, nextKey first s = .ok (some found, t) ∧ colon t = .ok ((), v) ∧
      ((found = key ∧ v = u) ∨
        (found ≠ key ∧ memberWithin? key clock false (valueEnd .plain 0 v) = some u)) := by
  unfold memberWithin? at h
  split at h
  · next found t hkey =>
    split at h
    · next v hcolon =>
      split at h
      · next hfound => exact ⟨found, t, v, hkey, hcolon, .inl ⟨hfound, Option.some.inj h⟩⟩
      · next hfound => exact ⟨found, t, v, hkey, hcolon, .inr ⟨hfound, h⟩⟩
    · cases h
  · cases h

theorem memberWithin_of_key (key : String) (tick : Char) (clock : List Char) (first : Bool)
    (s : List Char) (found : String) (t v : List Char)
    (hkey : nextKey first s = .ok (some found, t)) (hcolon : colon t = .ok ((), v)) :
    memberWithin? key (tick :: clock) first s =
      if found = key then some v else memberWithin? key clock false (valueEnd .plain 0 v) := by
  simp only [memberWithin?, hkey, hcolon]

/-- A character ends the value, or the search goes on behind it. -/
theorem valueEnd_cons (mode : Mode) (opened : ℕ) (c : Char) :
    (∀ s, valueEnd mode opened (c :: s) = c :: s) ∨
      ∃ mode' opened', ∀ s, valueEnd mode opened (c :: s) = valueEnd mode' opened' s := by
  cases mode with
  | escaped => exact .inr ⟨_, _, fun _ => rfl⟩
  | quoted =>
    simp only [valueEnd]
    split_ifs <;> exact .inr ⟨_, _, fun _ => rfl⟩
  | plain =>
    cases opened <;> simp only [valueEnd] <;> split_ifs
    all_goals first | exact .inl fun _ => rfl | exact .inr ⟨_, _, fun _ => rfl⟩

/-- The end of a value is found in front of any text that begins with the same character. -/
theorem valueEnd_local (mode : Mode) (opened : ℕ) (s : List Char)
    (h : valueEnd mode opened s ≠ []) :
    ∃ used, s = used ++ valueEnd mode opened s ∧
      ∀ u, u.head? = (valueEnd mode opened s).head? → valueEnd mode opened (used ++ u) = u := by
  induction s generalizing mode opened with
  | nil => simp at h
  | cons c s ih =>
    rcases valueEnd_cons mode opened c with hstop | ⟨mode', opened', hnext⟩
    · refine ⟨[], (hstop s).symm, fun u hu => ?_⟩
      rw [hstop s] at hu
      cases u with
      | nil => cases hu
      | cons d u =>
        cases hu
        exact hstop u
    · rw [hnext s] at h ⊢
      obtain ⟨used, hused, hu⟩ := ih mode' opened' h
      exact ⟨c :: used, congrArg (c :: ·) hused, fun u hk => (hnext _).trans (hu u hk)⟩

/-- The place of a member does not depend on what stands there. -/
theorem memberWithin_local (key : String) (clock : List Char) (first : Bool) (s u : List Char)
    (h : memberWithin? key clock first s = some u) :
    ∃ used, s = used ++ u ∧ 0 < used.length ∧ ∀ v clock', used.length ≤ clock'.length →
      memberWithin? key clock' first (used ++ v) = some v := by
  induction clock generalizing first s with
  | nil => cases h
  | cons tick clock ih =>
    obtain ⟨found, t, w, hkey, hcolon, hfound⟩ := memberWithin_eq_some _ _ _ _ _ _ h
    obtain ⟨used, rfl, hused⟩ := nextKey_local first s _ t hkey
    obtain ⟨taken, rfl, htaken, hw⟩ := local_colon t () w hcolon
    have hagain (v : List Char) : nextKey first (used ++ (taken ++ v)) =
        .ok (some found, taken ++ v) :=
      hused _ (Lookahead.allows_append .one taken w v htaken)
    rcases hfound with ⟨hfound, rfl⟩ | ⟨hfound, hlater⟩
    · refine ⟨used ++ taken, by simp, by simp; omega, fun v clock' hclock => ?_⟩
      cases clock' with
      | nil =>
        simp only [List.length_append, List.length_nil] at hclock
        omega
      | cons tick clock' =>
        rw [List.append_assoc, memberWithin_of_key key tick clock' first _ found _ _ (hagain v)
          (hw v trivial), if_pos hfound]
    · -- the search goes on, so there is text behind the value it passes over
      have hend : valueEnd .plain 0 w ≠ [] := by
        intro hend
        rw [hend] at hlater
        cases clock <;> cases hlater
      obtain ⟨passed, hpassed, hp⟩ := valueEnd_local .plain 0 w hend
      obtain ⟨more, hmore, hpos, hm⟩ := ih false _ hlater
      refine ⟨used ++ (taken ++ (passed ++ more)), ?_, by simp; omega, fun v clock' hclock => ?_⟩
      · rw [List.append_assoc, List.append_assoc, List.append_assoc, ← hmore, ← hpassed]
      · simp only [List.length_append] at hclock
        cases clock' with
        | nil =>
          simp only [List.length_nil] at hclock
          omega
        | cons tick clock' =>
          have hhead : (more ++ v).head? = (valueEnd .plain 0 w).head? := by
            rw [hmore]
            exact Lookahead.allows_append .one more u v hpos
          have hrest := hm v clock' (by simp only [List.length_cons] at hclock; omega)
          simp only [List.append_assoc]
          rw [memberWithin_of_key key tick clock' first _ found _ _ (hagain _) (hw _ trivial),
            if_neg hfound, hp _ hhead]
          exact hrest

theorem memberStart_local (key : String) (s u : List Char) (h : memberStart? key s = some u) :
    ∃ before, s = before ++ u ∧ ∀ v, memberStart? key (before ++ v) = some v := by
  unfold memberStart? at h
  split at h
  · next t hskip =>
    obtain ⟨lead, rfl, hagain⟩ := skipSpace_cons s '{' t hskip
    obtain ⟨used, rfl, -, hu⟩ := memberWithin_local key t true t u h
    refine ⟨lead ++ '{' :: used, by simp, fun v => ?_⟩
    rw [memberStart?, List.append_assoc, List.cons_append, hagain]
    exact hu v _ (by simp)
  · cases h

theorem memberStart_append (key : String) (before v : List Char)
    (h : memberStart? key before = some []) : memberStart? key (before ++ v) = some v := by
  obtain ⟨used, hused, hv⟩ := memberStart_local key before [] h
  rw [List.append_nil] at hused
  rw [hused]
  exact hv v

theorem nextKey_skipSpace (first : Bool) (s : List Char) :
    nextKey first (skipSpace s) = nextKey first s := by
  rw [nextKey, nextKey, skipSpace_skipSpace]

/-- In front of the next key stands what ends the value before it. -/
theorem valueEnd_of_nextKey (s : List Char) (key : Option String) (rest : List Char)
    (h : nextKey false s = .ok (key, rest)) : valueEnd .plain 0 s = skipSpace s := by
  rw [← valueEnd_skipSpace]
  unfold nextKey at h
  split at h
  · cases h
  · next c t hskip =>
    rw [hskip]
    split at h
    · next hc =>
      rw [hc]
      rfl
    split at h
    · next hfirst => cases hfirst
    split at h
    · next hc =>
      rw [hc]
      rfl
    · cases h

/-- Passing over a value leads to the same key as reading it. -/
theorem memberWithin_valueEnd {τ : Type} (member : String → τ → Reader τ) (clock : List Char)
    (state final : τ) (key : String) (s rest : List Char)
    (h : membersWithin member clock false state s = .ok (final, rest)) :
    memberWithin? key clock false (valueEnd .plain 0 s) = memberWithin? key clock false s := by
  cases clock with
  | nil => rfl
  | cons tick clock =>
    obtain ⟨found, t, hkey, -⟩ := (bind_eq_ok_iff _ _ s final rest).mp h
    rw [valueEnd_of_nextKey s found t hkey, memberWithin?, memberWithin?, nextKey_skipSpace]

theorem suffix_of_membersWithin (k : ℕ) (clock : List Char) (first : Bool)
    (read : List (String × Json)) (s : List Char) (final : List (String × Json))
    (rest : List Char)
    (h : membersWithin (memberAsValue (value k)) clock first read s = .ok (final, rest)) :
    read <:+ final :=
  membersWithin_invariant (memberAsValue (value k)) (read <:+ ·)
    (fun key state t state' u hstate hmember => by
      obtain ⟨done, v, -, hvalue⟩ := (bind_eq_ok_iff _ _ t state' u).mp hmember
      obtain ⟨j, -, rfl⟩ := (map_eq_ok_iff (fun j => (key, j) :: state) _ v state' u).mp hvalue
      exact hstate.trans (List.suffix_cons _ state))
    clock first read (List.suffix_refl read) s final rest h

theorem memberWithin_of_lookup (k : ℕ) (key : String) (j : Json) (clock : List Char)
    (first : Bool) (read : List (String × Json)) (s : List Char) (final : List (String × Json))
    (rest : List Char) (hread : read.reverse.lookup key = none)
    (hfinal : final.reverse.lookup key = some j)
    (h : membersWithin (memberAsValue (value k)) clock first read s = .ok (final, rest)) :
    ∃ u v, memberWithin? key clock first s = some u ∧ value k u = .ok (j, v) := by
  induction clock generalizing first read s with
  | nil => cases h
  | cons tick clock ih =>
    obtain ⟨found, t, hkey, hmembers⟩ := (bind_eq_ok_iff _ _ s final rest).mp h
    cases found with
    | none =>
      cases hmembers
      rw [hread] at hfinal
      cases hfinal
    | some found =>
      obtain ⟨read', w, hmember, hrest⟩ := (bind_eq_ok_iff _ _ t final rest).mp hmembers
      obtain ⟨done, v, hcolon, hvalue⟩ := (bind_eq_ok_iff _ _ t read' w).mp hmember
      obtain ⟨i, hi, rfl⟩ := (map_eq_ok_iff (fun j => (found, j) :: read) _ v read' w).mp hvalue
      rw [memberWithin_of_key key tick clock first s found t v hkey hcolon]
      split
      · next hfound =>
        -- members that are read later stand behind this one
        obtain ⟨later, rfl⟩ := suffix_of_membersWithin k clock false _ w final rest hrest
        rw [List.reverse_append, List.reverse_cons, List.lookup_append, List.lookup_append,
          hread, hfound] at hfinal
        simp only [List.lookup_cons, beq_self_eq_true, Option.none_or, Option.some_or] at hfinal
        cases hfinal
        exact ⟨v, w, rfl, hi⟩
      · next hfound =>
        rw [balanced_value k v i w hi 0, memberWithin_valueEnd _ clock _ final key w rest hrest]
        refine ih false _ w ?_ hrest
        have hne : (key == found) = false := by simpa using Ne.symm hfound
        rw [List.reverse_cons, List.lookup_append, hread]
        simp [List.lookup_cons, hne]

/-- The text of an object that has a key leads up to the text of its first value with it. -/
theorem exists_memberStart (text : String) (ms : List (String × Json)) (key : String) (j : Json)
    (hobject : Json.ofText text = .ok (.object ms)) (hkey : ms.lookup key = some j) :
    ∃ before source after, text = before ++ source ++ after ∧
      memberStart? key before.toList = some [] ∧ value 126 source.toList = .ok (j, []) := by
  obtain ⟨rest, hread, -⟩ := (run_eq_ok_iff _ text _).mp hobject
  obtain ⟨inner, t, hlevels, hskip, hmembers⟩ := value_object levels text.toList ms rest hread
  have hinner : inner = 126 := by
    rw [levels] at hlevels
    omega
  obtain ⟨w, hw, -⟩ := (enclosed_eq_ok_iff _ _ _ t rest _).mp hmembers
  obtain ⟨u, after, hu, hvalue⟩ := memberWithin_of_lookup inner key j t true [] t ms.reverse w rfl
    (by rwa [List.reverse_reverse]) hw
  have hstart : memberStart? key text.toList = some u := by
    simp only [memberStart?, hskip, hu]
  obtain ⟨before, hbefore, hplace⟩ := memberStart_local key _ u hstart
  obtain ⟨source, rfl, -, hsource⟩ := local_value inner u j after hvalue
  refine ⟨String.ofList before, String.ofList source, String.ofList after, ?_, ?_, ?_⟩
  · rw [← String.toList_inj]
    simpa using hbefore
  · have hnil := hplace []
    rwa [List.append_nil, ← String.toList_ofList (l := before)] at hnil
  · have hend := hsource [] (.inr rfl)
    rwa [List.append_nil, hinner, ← String.toList_ofList (l := source)] at hend

/-- In the text of an object the value of its second member stands where that key leads. -/
theorem Layout.memberStart_second (l : Layout) (k : ℕ) (first second : String) (i j : Json)
    (rest : List (String × Json)) (hne : first ≠ second)
    (hi : IsSource (value k) (l.chars 1 i) i) :
    memberStart? second (l.chars 0 (.object ((first, i) :: (second, j) :: rest))) =
      some (l.afterColon ++ (l.chars 1 j ++ l.members 0 rest)) := by
  have hvalue := hi (l.members 0 ((second, j) :: rest)) rfl
  rw [← value_blank k _ _ l.blank_afterColon] at hvalue
  have hend := balanced_value k _ i _ hvalue 0
  have hfirst := nextKey_first (l.line 1) first
    (':' :: (l.afterColon ++ (l.chars 1 i ++ l.members 0 ((second, j) :: rest)))) (l.blank_line 1)
  have hsecond := nextKey_comma (l.line 1) second
    (':' :: (l.afterColon ++ (l.chars 1 j ++ l.members 0 rest))) (l.blank_line 1)
  have hplace : memberWithin? second [' ', ' '] true
      (l.objectBody 0 ((first, i) :: (second, j) :: rest)) =
        some (l.afterColon ++ (l.chars 1 j ++ l.members 0 rest)) := by
    rw [objectBody, memberWithin_of_key second _ _ _ _ first _ _ hfirst rfl, if_neg hne, hend]
    exact (memberWithin_of_key second _ _ _ _ second _ _ hsecond rfl).trans (if_pos rfl)
  obtain ⟨used, hused, -, hagain⟩ := memberWithin_local _ _ _ _ _ hplace
  change memberWithin? second (l.objectBody 0 _) true (l.objectBody 0 _) = _
  rw [hused]
  exact hagain _ _ (by simp)

theorem Layout.memberSource_second (l : Layout) (k : ℕ) (first second : String) (i : Json)
    (as : List Json) (rest : List (String × Json)) (hne : first ≠ second)
    (hi : IsSource (value k) (l.chars 1 i) i)
    (has : IsSource (value 126) (l.chars 1 (.array as)) (.array as)) (text : String)
    (htext : text.toList = l.chars 0 (.object ((first, i) :: (second, .array as) :: rest))) :
    memberSource? second text = some (String.ofList (l.chars 1 (.array as))) := by
  have hread := has (l.members 0 rest) (by simpa using l.head_members 0 rest [])
  have hskip : skipSpace (l.chars 1 (.array as) ++ l.members 0 rest) =
      l.chars 1 (.array as) ++ l.members 0 rest := rfl
  rw [memberSource?, htext, l.memberStart_second k first second i _ rest hne hi,
    Option.bind_some, skipSpace_blank _ _ l.blank_afterColon, hskip,
    sourced_of_eq_ok _ _ _ _ hread]
  rfl

end Json

namespace Request

theorem skipSpace_of_member (levels : ℕ) (key : String) (d : Draft) (s : List Char) (d' : Draft)
    (rest : List Char) (h : member levels key d s = .ok (d', rest)) :
    ∃ t, skipSpace s = ':' :: t := by
  have honce {α : Type} (name : String) (earlier : Option α) (item : Reader α)
      (f : Option α → Draft) (hmap : (f <$> once name earlier item) s = .ok (d', rest)) :
      ∃ t, skipSpace s = ':' :: t := by
    obtain ⟨found, hfound, -⟩ := (map_eq_ok_iff f _ s d' rest).mp hmap
    obtain ⟨a, t, -, hcolon, -⟩ := once_eq_ok name earlier item s found rest hfound
    exact ⟨t, hcolon⟩
  unfold member at h
  split at h
  · exact honce _ d.records _ (fun records => { d with records }) h
  split at h
  · exact honce _ d.rules _ (fun rules => { d with rules }) h
  split at h
  · exact honce _ d.table _ (fun table => { d with table }) h
  split at h
  · exact honce _ d.options _ (fun options => { d with options }) h
  · obtain ⟨skipped, hskip, -⟩ := (map_eq_ok_iff (fun _ => d) skipMember s d' rest).mp h
    obtain ⟨done, t, hcolon, -⟩ := (bind_eq_ok_iff colon (fun _ => skip) s skipped rest).mp hskip
    exact ⟨t, (colon_eq_ok_iff s t done).mp hcolon⟩

/-- The records that are read stand where the first member with their key does. -/
theorem place_eq_memberWithin (levels : ℕ) (clock : List Char) (first : Bool) (p : Placed)
    (s : List Char) (p' : Placed) (rest : List Char) (hplace : p.place = none)
    (h : membersWithin (memberPlaced levels) clock first p s = .ok (p', rest)) :
    p'.place.map (·.1) = memberWithin? "records" clock first s := by
  induction clock generalizing first p s with
  | nil => cases h
  | cons tick clock ih =>
    obtain ⟨key, t, hkey, hmembers⟩ := (bind_eq_ok_iff _ _ s p' rest).mp h
    cases key with
    | none =>
      cases hmembers
      rw [hplace, memberWithin?, hkey]
      rfl
    | some key =>
      obtain ⟨p₁, w, hp₁, hrest⟩ := (bind_eq_ok_iff _ _ t p' rest).mp hmembers
      obtain ⟨hmember, hplace₁⟩ := memberPlaced_eq_ok levels key p t p₁ w hp₁
      obtain ⟨v, hskip⟩ := skipSpace_of_member levels key p.draft t p₁.draft w hmember
      have hcolon := (colon_eq_ok_iff t v ()).mpr hskip
      rw [memberWithin_of_key "records" tick clock first s key t v hkey hcolon]
      by_cases hrecords : key = "records"
      · subst hrecords
        obtain ⟨-, x, known, -, -, hdraft⟩ := member_records_inv levels p.draft t p₁.draft w hmember
        obtain ⟨-, hplace', -⟩ :=
          membersWithin_after levels clock false p₁ w p' rest known (by rw [hdraft]) hrest
        rw [if_pos rfl, hplace', hplace₁, if_pos rfl, hskip]
        rfl
      · rw [if_neg hrecords] at hplace₁ ⊢
        -- both the colon and the whole member are balanced, so they lead to one end
        have hend : valueEnd .plain 0 v = valueEnd .plain 0 w :=
          (balanced_colon t () v hcolon 0).symm.trans
            (balanced_member levels key p.draft t p₁.draft w hmember 0)
        rw [hend, memberWithin_valueEnd _ clock p₁ p' _ w rest hrest]
        exact ih false p₁ w (hplace₁.trans hplace) hrest

theorem membersWithin_memberPlaced (levels : ℕ) (clock : List Char) (s : List Char) (d : Draft)
    (rest : List Char)
    (h : membersWithin (member levels) clock true Placed.start.draft s = .ok (d, rest)) :
    ∃ p, membersWithin (memberPlaced levels) clock true .start s = .ok (p, rest) := by
  obtain ⟨p, hp, -⟩ := membersWithin_simulation (fun (p : Placed) d => p.draft = d)
    (memberPlaced levels) (member levels) (fun key p d t d' u hpd hd => by
      subst hpd
      exact ⟨_, by rw [memberPlaced, hd], rfl⟩)
    clock true .start _ rfl s d rest h
  exact ⟨p, hp⟩

theorem recordsPlace_eq_memberStart (text : String) (q : Request) (hq : ofText text = .ok q) :
    (recordsPlace? text).map (·.1) = memberStart? "records" text.toList := by
  obtain ⟨rest, hread, -⟩ := (run_eq_ok_iff _ text q).mp hq
  obtain ⟨k, t, hk, ⟨hskip, -⟩ | ⟨hskip, hobject⟩⟩ := structured_eq_ok _ _ _ _ _ _ _ hread
  · rw [recordsPlace?, memberStart?, hskip]
    rfl
  · cases hk
    obtain ⟨w, hfields, hclose⟩ := (enclosed_eq_ok_iff _ _ _ t rest q).mp hobject
    obtain ⟨d, hd, -⟩ := (map_eq_ok_iff _ _ t q w).mp hfields
    obtain ⟨p, hp⟩ := membersWithin_memberPlaced 126 t t d w hd
    have hplaced : inObject (members (memberPlaced 126) .start) t = .ok (p, rest) :=
      (enclosed_eq_ok_iff _ _ _ _ _ _).mpr ⟨w, hp, hclose⟩
    simp only [recordsPlace?, memberStart?, hskip, hplaced]
    exact place_eq_memberWithin 126 t true .start t p w rfl hp

end Request

end Screening
