import Screening.Proofs.Scalars

/-!
# Arrays, objects and values

The contents of an array or object end in front of the bracket that closes it,
so a closed one ends by itself. By induction on the levels a value is read the
same wherever it stands, as long as no number at its end can go on.
-/

set_option autoImplicit false

namespace Screening.Json

variable {α σ : Type}

theorem closeList_eq_ok_iff (s rest : List Char) (a : Unit) :
    closeList s = .ok (a, rest) ↔ skipSpace s = ']' :: rest := by
  unfold closeList
  cases skipSpace s with
  | nil => simp [faultAhead]
  | cons c t =>
    by_cases hc : c = ']'
    · simp [hc]
    · simp only [hc, if_false]
      split
      · split <;> simp [faultAhead, hc]
      · simp [faultAhead, hc]

theorem closeObject_eq_ok_iff (s rest : List Char) (a : Unit) :
    closeObject s = .ok (a, rest) ↔ skipSpace s = '}' :: rest := by
  unfold closeObject
  cases skipSpace s with
  | nil => simp [faultAhead]
  | cons c t =>
    by_cases hc : c = '}'
    · simp [hc]
    · simp only [hc, if_false]
      split <;> simp [faultAhead, hc]

theorem colon_eq_ok_iff (s rest : List Char) (a : Unit) :
    colon s = .ok (a, rest) ↔ skipSpace s = ':' :: rest := by
  unfold colon
  cases skipSpace s with
  | nil => simp [faultAhead]
  | cons c t =>
    by_cases hc : c = ':' <;> simp [faultAhead, hc]

theorem local_sign (sign : Char) (reader : Reader Unit)
    (h : ∀ s rest a, reader s = .ok (a, rest) ↔ skipSpace s = sign :: rest) :
    Local .none 1 reader := by
  intro s a rest hs
  obtain ⟨before, rfl, hagain⟩ := skipSpace_cons s sign rest ((h s rest a).mp hs)
  refine ⟨before ++ [sign], by simp, by simp, fun u _ => ?_⟩
  rw [h, List.append_assoc]
  exact hagain u

theorem local_closeList : Local .none 1 closeList := local_sign ']' _ closeList_eq_ok_iff

theorem local_closeObject : Local .none 1 closeObject := local_sign '}' _ closeObject_eq_ok_iff

theorem local_colon : Local .none 1 colon := local_sign ':' _ colon_eq_ok_iff

theorem Local.afterColon {l : Lookahead} {reader : Reader α} (h : Local l 1 reader) :
    Local l 1 (do colon; reader) := by
  have hboth := Local.bind local_colon (fun _ => h) (.inl Nat.one_pos)
  exact hboth.weaken (fun _ _ h => h) (Nat.le_add_left 1 1)

theorem enclosed_eq_ok_iff (leave : List Char → List Char) (close : Reader Unit)
    (contents : Reader α) (s rest : List Char) (a : α) :
    enclosed leave close contents s = .ok (a, rest) ↔
      ∃ t, contents s = .ok (a, t) ∧ close t = .ok ((), rest) := by
  unfold enclosed
  cases contents s with
  | error e => simp
  | ok result =>
    obtain ⟨b, t⟩ := result
    show (do close; Pure.pure b : Reader α) t = _ ↔ _
    rw [bind_eq_ok_iff]
    constructor
    · rintro ⟨done, v, hclose, hp⟩
      cases hp
      exact ⟨t, rfl, hclose⟩
    · rintro ⟨v, hv, hclose⟩
      cases hv
      exact ⟨(), rest, hclose, rfl⟩

theorem local_enclosed {m : ℕ} (leave : List Char → List Char) (close : Reader Unit)
    (contents : Reader α) (hcontents : Local .one m contents) (hclose : Local .none 1 close) :
    Local .none (m + 1) (enclosed leave close contents) := by
  intro s a rest h
  obtain ⟨t, hcontent, hend⟩ := (enclosed_eq_ok_iff leave close contents s rest a).mp h
  obtain ⟨used, rfl, hm, hu⟩ := hcontents s a t hcontent
  obtain ⟨more, rfl, hmore, hv⟩ := hclose t () rest hend
  refine ⟨used ++ more, (List.append_assoc _ _ _).symm, ?_, fun u _ => ?_⟩
  · rw [List.length_append]
    omega
  · rw [List.append_assoc, enclosed_eq_ok_iff]
    exact ⟨more ++ u, hu _ (Lookahead.allows_append .one more rest u hmore), hv u trivial⟩

theorem nextItem_local (first more : Bool) (s rest : List Char)
    (h : nextItem first s = .ok (more, rest)) :
    ∃ used c t, s = used ++ c :: t ∧ rest = c :: t ∧
      ∀ u, nextItem first (used ++ c :: u) = .ok (more, c :: u) := by
  unfold nextItem at h
  cases hskip : skipSpace s with
  | nil => simp [hskip, faultAhead] at h
  | cons c t =>
    obtain ⟨before, rfl, hagain⟩ := skipSpace_cons s c t hskip
    simp only [hskip] at h
    split at h
    · next hc =>
      cases h
      exact ⟨before, c, t, rfl, rfl, fun u => by simp only [nextItem, hagain, if_pos hc]⟩
    split at h
    · next hc hfirst =>
      cases h
      refine ⟨before, c, t, rfl, rfl, fun u => ?_⟩
      simp only [nextItem, hagain, if_neg hc, if_pos hfirst]
    split at h
    · next hc hfirst hcomma =>
      cases hnext : skipSpace t with
      | nil => simp [hnext, faultAhead] at h
      | cons d v =>
        obtain ⟨between, rfl, hafter⟩ := skipSpace_cons t d v hnext
        simp only [hnext] at h
        split at h
        · cases h
        · next hd =>
          cases h
          refine ⟨before ++ c :: between, d, v, by simp, rfl, fun u => ?_⟩
          simp only [nextItem, List.append_assoc, List.cons_append, hagain, if_neg hc,
            if_neg hfirst, if_pos hcomma, hafter, if_neg hd]
    · cases h

/-- A loop that ends in front of a character. Its clock only has to last for what the
loop takes. -/
def Clocked (loop : List Char → Reader α) : Prop :=
  ∀ clock s a rest, loop clock s = .ok (a, rest) →
    ∃ used c t, s = used ++ c :: t ∧ rest = c :: t ∧ ∀ u clock',
      (used ++ c :: u).length ≤ clock'.length → loop clock' (used ++ c :: u) = .ok (a, c :: u)

theorem Clocked.local {loop : List Char → Reader α} (h : Clocked loop) :
    Local .one 0 (fun s => loop s s) := by
  intro s a rest hs
  obtain ⟨used, c, t, rfl, rfl, hu⟩ := h s s a rest hs
  refine ⟨used, rfl, Nat.zero_le _, fun u hk => ?_⟩
  cases u with
  | nil => cases hk
  | cons d u =>
    cases hk
    exact hu u _ le_rfl

theorem clocked_itemsWithin {l : Lookahead} (item : Reader α) (hitem : Local l 1 item)
    (first : Bool) : Clocked (fun clock => itemsWithin item clock first) := by
  intro clock
  induction clock generalizing first with
  | nil => exact fun s as rest h => nomatch h
  | cons tick clock ih =>
    intro s as rest h
    obtain ⟨more, t, hnext, h⟩ := (bind_eq_ok_iff _ _ s as rest).mp h
    obtain ⟨used, c, v, rfl, rfl, hu⟩ := nextItem_local first more s t hnext
    cases more with
    | false =>
      cases h
      refine ⟨used, c, v, rfl, rfl, fun u clock' hclock => ?_⟩
      cases clock' with
      | nil => simp at hclock
      | cons tick clock' => exact (bind_eq_ok_iff _ _ _ _ _).mpr ⟨false, _, hu u, rfl⟩
    | true =>
      obtain ⟨a, w, ha, h⟩ := (bind_eq_ok_iff item _ _ as rest).mp h
      obtain ⟨bs, hbs, rfl⟩ :=
        (map_eq_ok_iff (a :: ·) (itemsWithin item clock false) w as rest).mp h
      obtain ⟨taken, htaken, hpos, hv⟩ := hitem (c :: v) a w ha
      obtain ⟨more, d, x, rfl, rfl, hx⟩ := ih false w bs _ hbs
      cases taken with
      | nil => simp at hpos
      | cons e taken =>
        cases htaken
        refine ⟨used ++ c :: taken ++ more, d, x, by simp, rfl, fun y clock' hclock => ?_⟩
        cases clock' with
        | nil => simp at hclock
        | cons tick clock' =>
          have hitems := hx y clock' (by simp at hclock ⊢; omega)
          have htake := hv (more ++ d :: y) (l.allows_of_head _ _ (by cases more <;> rfl))
          simp only [List.append_assoc, List.cons_append] at htake ⊢
          exact (bind_eq_ok_iff _ _ _ _ _).mpr ⟨true, _, hu _,
            (bind_eq_ok_iff _ _ _ _ _).mpr ⟨a, _, htake,
              (map_eq_ok_iff (a :: ·) _ _ _ _).mpr ⟨bs, hitems, rfl⟩⟩⟩

theorem local_items {l : Lookahead} (item : Reader α) (hitem : Local l 1 item) (first : Bool) :
    Local .one 0 (items item first) :=
  (clocked_itemsWithin item hitem first).local

theorem local_keyAfterComma : Local .none 1 (fun s => match skipSpace s with
    | [] => faultAhead .endInValue []
    | d :: rest =>
      if d = '"' then (some <$> stringBody) rest
      else if d = '}' then faultAhead .trailingComma (d :: rest)
      else faultAhead .keyNotString (d :: rest) : Reader (Option String)) := by
  have hstring := (local_stringBody.map some).forget
  refine local_spaced (fun d s => if d = '"' then (some <$> stringBody) s else
      if d = '}' then faultAhead .trailingComma (d :: s)
      else faultAhead .keyNotString (d :: s)) ?_ ?_ fun d => ?_
  · intro s a rest hskip h
    simp [hskip, faultAhead] at h
  · intro s d t hskip
    simp only [hskip]
  · exact local_choice _ hstring
      (local_choice _ (local_faultAhead _ _) (local_faultAhead _ _))

theorem nextKey_local (first : Bool) (s : List Char) (key : Option String) (rest : List Char)
    (h : nextKey first s = .ok (key, rest)) :
    ∃ used, s = used ++ rest ∧
      ∀ u, u.head? = rest.head? → nextKey first (used ++ u) = .ok (key, u) := by
  unfold nextKey at h
  cases hskip : skipSpace s with
  | nil => simp [hskip, faultAhead] at h
  | cons c t =>
    obtain ⟨before, rfl, hagain⟩ := skipSpace_cons s c t hskip
    simp only [hskip] at h
    by_cases hc : c = '}'
    · simp only [if_pos hc] at h
      cases h
      refine ⟨before, rfl, fun u hk => ?_⟩
      cases u with
      | nil => cases hk
      | cons d u =>
        cases hk
        simp only [nextKey, hagain, if_pos hc]
    · simp only [if_neg hc] at h
      have hstring := (local_stringBody.map some).forget
      have hcomma := local_keyAfterComma.forget
      have hafter : Local .none 0 (fun t => if first = true then
            if c = '"' then (some <$> stringBody) t else faultAhead .keyNotString (c :: t)
          else if c = ',' then _ else faultAhead .noCommaInObject (c :: t)) :=
        local_choice _ (local_choice _ hstring (local_faultAhead _ _))
          (local_choice _ hcomma (local_faultAhead _ _))
      obtain ⟨used, rfl, -, hu⟩ := hafter t key rest h
      refine ⟨before ++ c :: used, by simp, fun u _ => ?_⟩
      simp only [nextKey, List.append_assoc, List.cons_append, hagain, if_neg hc]
      exact hu u trivial

theorem keyAfterComma_ne_none (s rest : List Char) :
    (some <$> stringBody : Reader (Option String)) s ≠ .ok (none, rest) := by
  intro h
  obtain ⟨key, -, hkey⟩ := (map_eq_ok_iff some stringBody s none rest).mp h
  cases hkey

theorem nextKey_none (first : Bool) (s rest : List Char)
    (h : nextKey first s = .ok (none, rest)) : ∃ t, rest = '}' :: t := by
  unfold nextKey at h
  split at h
  · cases h
  split at h
  · next hc =>
    cases h
    exact ⟨_, by rw [hc]⟩
  split at h
  · split at h
    · exact absurd h (keyAfterComma_ne_none _ _)
    · cases h
  split at h
  · split at h
    · cases h
    split at h
    · exact absurd h (keyAfterComma_ne_none _ _)
    · split at h <;> cases h
  · cases h

theorem clocked_membersWithin {l : Lookahead} (member : String → σ → Reader σ)
    (hmember : ∀ key state, Local l 1 (member key state)) (first : Bool) (state : σ) :
    Clocked (fun clock => membersWithin member clock first state) := by
  intro clock
  induction clock generalizing first state with
  | nil => exact fun s result rest h => nomatch h
  | cons tick clock ih =>
    intro s result rest h
    obtain ⟨key, t, hkey, h⟩ := (bind_eq_ok_iff _ _ s result rest).mp h
    obtain ⟨used, rfl, hu⟩ := nextKey_local first s key t hkey
    cases key with
    | none =>
      cases h
      obtain ⟨v, rfl⟩ := nextKey_none first _ rest hkey
      refine ⟨used, '}', v, rfl, rfl, fun u clock' hclock => ?_⟩
      cases clock' with
      | nil => simp at hclock
      | cons tick clock' => exact (bind_eq_ok_iff _ _ _ _ _).mpr ⟨none, _, hu _ rfl, rfl⟩
    | some key =>
      obtain ⟨state', w, hstate, hrest⟩ := (bind_eq_ok_iff _ _ t result rest).mp h
      obtain ⟨taken, rfl, hpos, hv⟩ := hmember key state t state' w hstate
      obtain ⟨more, d, x, rfl, rfl, hx⟩ := ih false state' w result _ hrest
      refine ⟨used ++ taken ++ more, d, x, by simp, rfl, fun y clock' hclock => ?_⟩
      cases clock' with
      | nil => simp at hclock
      | cons tick clock' =>
        have hmembers := hx y clock' (by simp at hclock ⊢; omega)
        have htake := hv (more ++ d :: y) (l.allows_of_head _ _ (by cases more <;> rfl))
        have hnext := hu (taken ++ (more ++ d :: y)) (by
          cases taken with
          | nil => simp at hpos
          | cons e taken => rfl)
        rw [List.append_assoc, List.append_assoc]
        exact (bind_eq_ok_iff _ _ _ _ _).mpr ⟨some key, _, hnext,
          (bind_eq_ok_iff _ _ _ _ _).mpr ⟨state', _, htake, hmembers⟩⟩

theorem local_members {l : Lookahead} (member : String → σ → Reader σ)
    (hmember : ∀ key state, Local l 1 (member key state)) (state : σ) :
    Local .one 0 (members member state) :=
  (clocked_membersWithin member hmember true state).local

def memberAsValue (item : Reader Json) (key : String) (read : List (String × Json)) :
    Reader (List (String × Json)) := do
  colon
  return (key, ← item) :: read

theorem local_memberAsValue {l : Lookahead} (item : Reader Json) (hitem : Local l 1 item)
    (key : String) (read : List (String × Json)) : Local l 1 (memberAsValue item key read) :=
  (hitem.map fun j => (key, j) :: read).afterColon

def arrayOf (item : Reader Json) : Reader Json := inList (array <$> items item true)

def objectOf (item : Reader Json) : Reader Json :=
  inObject (do return .object (← members (memberAsValue item) []).reverse)

def valueFrom (inner : Option (Reader Json)) (c : Char) : Reader Json := fun s =>
  if c = 'n' then keyword .null ['u', 'l', 'l'] s
  else if c = 't' then keyword (.bool true) ['r', 'u', 'e'] s
  else if c = 'f' then keyword (.bool false) ['a', 'l', 's', 'e'] s
  else if c = '-' then (number <$> numberBody true) s
  else if c.isDigit then (number <$> numberBody false) (c :: s)
  else if c = '"' then (string <$> stringBody) s
  else if c = '[' then inner.elim (faultAhead .tooDeep (c :: s)) fun item => arrayOf item s
  else if c = '{' then inner.elim (faultAhead .tooDeep (c :: s)) fun item => objectOf item s
  else faultAhead .noValue (c :: s)

theorem valueAround_eq (inner : Option (Reader Json)) (s : List Char) (c : Char) (t : List Char)
    (h : skipSpace s = c :: t) : valueAround inner s = valueFrom inner c t := by
  simp only [valueAround, h, valueFrom]
  cases inner <;> rfl

theorem valueAround_nil (inner : Option (Reader Json)) (s : List Char) (j : Json)
    (rest : List Char) (h : skipSpace s = []) : valueAround inner s ≠ .ok (j, rest) := by
  simp [valueAround, h, faultAhead]

theorem Local.uncons {l : Lookahead} {m : ℕ} {reader : Reader α} (h : Local l (m + 1) reader)
    (c : Char) : Local l m (fun s => reader (c :: s)) := by
  intro s a rest hs
  obtain ⟨used, hsplit, hm, hu⟩ := h (c :: s) a rest hs
  cases used with
  | nil => simp at hm
  | cons d used =>
    cases hsplit
    exact ⟨used, rfl, by simpa using hm, hu⟩

theorem local_arrayOf (item : Reader Json) (hitem : Local .number 1 item) :
    Local .none 1 (arrayOf item) :=
  local_enclosed _ _ _ ((local_items item hitem true).map array) local_closeList

theorem local_objectOf (item : Reader Json) (hitem : Local .number 1 item) :
    Local .none 1 (objectOf item) :=
  local_enclosed _ _ _
    ((local_members _ (local_memberAsValue item hitem) []).map fun read => object read.reverse)
    local_closeObject

theorem local_valueFrom (inner : Option (Reader Json)) (c : Char)
    (hinner : ∀ item, inner = some item → Local .number 1 item) :
    Local .number 0 (valueFrom inner c) := by
  have hstring : Local .none 0 (string <$> stringBody) :=
    (local_stringBody.map string).forget
  have hnumber : Local .number 0 (number <$> numberBody true) :=
    ((local_numberBody true).map number).forget
  have hdigit : Local .number 0 (fun s => (number <$> numberBody false) (c :: s)) :=
    ((local_numberBody false).map number).uncons c
  have harray : Local .none 0 (fun s =>
      inner.elim (faultAhead .tooDeep (c :: s)) fun item => arrayOf item s) := by
    cases inner with
    | none => exact local_faultAhead _ _
    | some item => exact (local_arrayOf item (hinner item rfl)).forget
  have hobject : Local .none 0 (fun s =>
      inner.elim (faultAhead .tooDeep (c :: s)) fun item => objectOf item s) := by
    cases inner with
    | none => exact local_faultAhead _ _
    | some item => exact (local_objectOf item (hinner item rfl)).forget
  have hword (a : Json) (letters : List Char) : Local .number 0 (keyword a letters) :=
    Local.of_none (local_keyword a letters)
  -- one choice for each test of the first character, in the order of the tests
  refine local_choice _ (hword _ _) <| local_choice _ (hword _ _) <|
    local_choice _ (hword _ _) <| local_choice _ hnumber <| local_choice _ hdigit <|
    local_choice _ (Local.of_none hstring) <| local_choice _ (Local.of_none harray) <|
    local_choice _ (Local.of_none hobject) ?_
  exact local_faultAhead _ _

theorem local_valueAround (inner : Option (Reader Json))
    (hinner : ∀ item, inner = some item → Local .number 1 item) :
    Local .number 1 (valueAround inner) :=
  local_spaced (valueFrom inner) (valueAround_nil inner) (valueAround_eq inner)
    fun c => local_valueFrom inner c hinner

theorem local_value (levels : ℕ) : Local .number 1 (value levels) := by
  induction levels with
  | zero => exact local_valueAround none fun _ h => nomatch h
  | succ levels ih =>
    apply local_valueAround
    intro item h
    cases h
    exact ih

end Screening.Json
