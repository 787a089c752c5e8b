import Screening.Proofs.Fields
import Screening.Proofs.Salvage

/-!
# Other records in the text of a request

The records of a request that is an object are written as another list, and the
rest of its text is left alone. Then the request is read as before, but for its
records. The place of the records is found by a reader that remembers what stands
before and after them.
-/

set_option autoImplicit false

namespace Screening.Request

open Json

structure Placed where
  draft : Draft
  place : Option (List Char × List Char)

def Placed.start : Placed := ⟨⟨none, none, none, none⟩, none⟩

/-- A member is read as in a request. Of the records it is kept what stands after their
colon, and what stands after them. -/
def memberPlaced (levels : ℕ) (key : String) (p : Placed) : Reader Placed := fun s =>
  match member levels key p.draft s with
  | .ok (d, rest) =>
    .ok (⟨d, if key = "records" then some ((skipSpace s).drop 1, rest) else p.place⟩, rest)
  | .error e => .error e

def recordsPlace? (text : String) : Option (List Char × List Char) :=
  match skipSpace text.toList with
  | '{' :: s => match inObject (members (memberPlaced 126) .start) s with
    | .ok (p, _) => p.place
    | .error _ => none
  | _ => none

/-- The text of a request with other records in it, if it is an object that has records. -/
def withRecords? (text records : String) : Option String :=
  (recordsPlace? text).map fun (start, stop) =>
    String.ofList (text.toList.take (text.toList.length - start.length) ++ (records.toList ++ stop))

theorem map_map {α β γ : Type} (f : α → β) (g : β → γ) (m : Reader α) :
    g <$> f <$> m = (fun a => g (f a)) <$> m := by
  funext s
  show (m >>= (fun a => pure (f a)) >>= fun b => pure (g b)) s = (m >>= fun a => pure (g (f a))) s
  simp only [bind_run]
  cases m s <;> rfl

/-- A member other than the records neither looks at them nor changes them. -/
theorem member_frame (levels : ℕ) (key : String) (d : Draft) (records : Option (List Record))
    (hkey : key ≠ "records") :
    member levels key { d with records } =
      (fun e => { e with records }) <$> member levels key d := by
  have hmap {α : Type} (f : α → Draft) (m : Reader α) :
      (fun a => { f a with records }) <$> m = (fun e => { e with records }) <$> f <$> m :=
    (map_map f (fun e => { e with records }) m).symm
  simp only [member, if_neg hkey]
  split
  · exact hmap (fun rules => { d with rules }) (once key d.rules (readRules levels))
  split
  · exact hmap (fun table => { d with table }) (once key d.table (readTable levels))
  split
  · exact hmap (fun options => { d with options }) (once key d.options (readOptions levels))
  · exact hmap (fun _ => d) skipMember

theorem records_of_member (levels : ℕ) (key : String) (d : Draft) (s : List Char) (d' : Draft)
    (rest : List Char) (hkey : key ≠ "records") (h : member levels key d s = .ok (d', rest)) :
    d'.records = d.records := by
  have hframe := member_frame levels key d d.records hkey
  rw [show ({ d with records := d.records } : Draft) = d from rfl] at hframe
  rw [hframe] at h
  obtain ⟨e, -, rfl⟩ := (map_eq_ok_iff _ _ _ _ _).mp h
  rfl

theorem member_records_inv (levels : ℕ) (d : Draft) (s : List Char) (d' : Draft)
    (rest : List Char) (h : member levels "records" d s = .ok (d', rest)) :
    d.records = none ∧ ∃ t records, skipSpace s = ':' :: t ∧
      readRecords levels t = .ok (records, rest) ∧ d' = { d with records := some records } := by
  obtain ⟨found, hfound, rfl⟩ := (map_eq_ok_iff
    (fun found => ({ d with records := found } : Draft)) _ s d' rest).mp h
  cases hd : d.records with
  | some records =>
    rw [hd] at hfound
    cases hfound
  | none =>
    rw [hd] at hfound
    obtain ⟨done, t, hcolon, hfound⟩ := (bind_eq_ok_iff _ _ s found rest).mp hfound
    obtain ⟨records, hrecords, rfl⟩ := (map_eq_ok_iff some _ t found rest).mp hfound
    exact ⟨rfl, t, records, (colon_eq_ok_iff s t done).mp hcolon, hrecords, rfl⟩

theorem memberPlaced_eq_ok (levels : ℕ) (key : String) (p : Placed) (s : List Char) (p' : Placed)
    (rest : List Char) (h : memberPlaced levels key p s = .ok (p', rest)) :
    member levels key p.draft s = .ok (p'.draft, rest) ∧
      p'.place = if key = "records" then some ((skipSpace s).drop 1, rest) else p.place := by
  unfold memberPlaced at h
  split at h
  · next d t hd =>
    cases h
    exact ⟨hd, rfl⟩
  · cases h

theorem head_append (used s t : List Char) (h : 0 < used.length) :
    (used ++ s).head? = (used ++ t).head? := by
  cases used with
  | nil => simp at h
  | cons c used => rfl

theorem membersWithin_placed (levels : ℕ) (clock : List Char) (first : Bool) (p : Placed)
    (s : List Char) (p' : Placed) (rest : List Char)
    (h : membersWithin (memberPlaced levels) clock first p s = .ok (p', rest)) :
    membersWithin (member levels) clock first p.draft s = .ok (p'.draft, rest) := by
  obtain ⟨d, hd, rfl⟩ := membersWithin_simulation (fun d (p : Placed) => d = p.draft)
    (member levels) (memberPlaced levels) (fun key d p t p₁ u hdp hp₁ =>
      ⟨p₁.draft, hdp ▸ (memberPlaced_eq_ok levels key p t p₁ u hp₁).1, rfl⟩)
    clock first p.draft p rfl s p' rest h
  exact hd

/-- Once the records were read, it makes no difference to the other members what they are. -/
theorem membersWithin_after (levels : ℕ) (clock : List Char) (first : Bool) (p : Placed)
    (s : List Char) (p' : Placed) (rest : List Char) (known : List Record)
    (hknown : p.draft.records = some known)
    (h : membersWithin (memberPlaced levels) clock first p s = .ok (p', rest)) :
    p'.draft.records = some known ∧ p'.place = p.place ∧
      ∀ (records : List Record) (clock' : List Char), s.length ≤ clock'.length →
        membersWithin (member levels) clock' first { p.draft with records := some records } s =
          .ok ({ p'.draft with records := some records }, rest) := by
  have hrun (records : List Record) : ∃ d,
      membersWithin (member levels) clock first { p.draft with records := some records } s =
        .ok (d, rest) ∧ d = { p'.draft with records := some records } ∧
          p'.draft.records = some known ∧ p'.place = p.place := by
    refine membersWithin_simulation (fun d (e : Placed) =>
      d = { e.draft with records := some records } ∧ e.draft.records = some known ∧
        e.place = p.place) (member levels) (memberPlaced levels) ?_ clock first _ p
      ⟨rfl, hknown, rfl⟩ s p' rest h
    rintro key d e t e' u ⟨rfl, he, hplace⟩ hmember
    obtain ⟨hmember, hplace'⟩ := memberPlaced_eq_ok levels key e t e' u hmember
    by_cases hkey : key = "records"
    · subst hkey
      obtain ⟨hnone, -⟩ := member_records_inv levels e.draft t e'.draft u hmember
      rw [he] at hnone
      cases hnone
    · have hrecords := records_of_member levels key e.draft t e'.draft u hkey hmember
      rw [if_neg hkey] at hplace'
      refine ⟨_, ?_, rfl, hrecords.trans he, hplace'.trans hplace⟩
      rw [member_frame levels key e.draft (some records) hkey]
      exact (map_eq_ok_iff _ _ _ _ _).mpr ⟨e'.draft, hmember, rfl⟩
  obtain ⟨-, -, -, hrecords, hplace⟩ := hrun known
  refine ⟨hrecords, hplace, fun records clock' hclock => ?_⟩
  obtain ⟨d, hd, rfl, -⟩ := hrun records
  obtain ⟨used, c, t, rfl, rfl, hu⟩ :=
    clocked_membersWithin (member levels) (local_member levels) first _ clock s _ rest hd
  exact hu t clock' hclock

def Exchangeable (levels : ℕ) (first : Bool) (d : Draft) (before stop : List Char) (d' : Draft)
    (rest : List Char) : Prop :=
  ∀ source records, readRecords levels (source ++ stop) = .ok (records, stop) →
    ∀ clock, (before ++ (source ++ stop)).length ≤ clock.length →
      membersWithin (member levels) clock first d (before ++ (source ++ stop)) =
        .ok ({ d' with records := some records }, rest)

/-- The records are the next member. -/
theorem exchangeable_records (levels : ℕ) (first : Bool) (d d' : Draft)
    (used space start stop rest : List Char) (hnone : d.records = none)
    (hkey : ∀ u, u.head? = (space ++ ':' :: start).head? →
      nextKey first (used ++ u) = .ok (some "records", u))
    (hskip : ∀ u, skipSpace (space ++ ':' :: u) = ':' :: u)
    (hafter : ∀ (records : List Record) (clock : List Char), stop.length ≤ clock.length →
      membersWithin (member levels) clock false { d with records := some records } stop =
        .ok ({ d' with records := some records }, rest)) :
    Exchangeable levels first d (used ++ (space ++ [':'])) stop d' rest := by
  intro source records hsource clock hclock
  cases clock with
  | nil => simp at hclock
  | cons tick clock =>
    have hnext := hkey (space ++ ':' :: (source ++ stop)) (by cases space <;> rfl)
    have hmember := member_records levels d _ _ records stop hnone (hskip (source ++ stop)) hsource
    have htail := hafter records clock (by simp at hclock; omega)
    simp only [List.append_assoc, List.singleton_append]
    rw [membersWithin_some _ _ _ _ _ _ _ _ _ _ hnext hmember]
    exact htail

/-- The records come after another member, which is read again whatever follows it. -/
theorem exchangeable_later (levels : ℕ) (first : Bool) (key : String) (d d₁ d' : Draft)
    (used taken before start stop rest : List Char) (htaken : 0 < taken.length)
    (hbefore : 0 < before.length)
    (hkey : ∀ u, u.head? = (taken ++ (before ++ start)).head? →
      nextKey first (used ++ u) = .ok (some key, u))
    (hmember : ∀ u, u.head? = (before ++ start).head? →
      member levels key d (taken ++ u) = .ok (d₁, u))
    (hlater : Exchangeable levels false d₁ before stop d' rest) :
    Exchangeable levels first d (used ++ (taken ++ before)) stop d' rest := by
  intro source records hsource clock hclock
  cases clock with
  | nil =>
    simp only [List.length_append, List.length_nil] at hclock
    omega
  | cons tick clock =>
    have hnext := hkey (taken ++ (before ++ (source ++ stop))) (head_append _ _ _ htaken)
    have hother := hmember (before ++ (source ++ stop)) (head_append _ _ _ hbefore)
    have htail := hlater source records hsource clock (by simp at hclock ⊢; omega)
    simp only [List.append_assoc]
    rw [membersWithin_some _ _ _ _ _ _ _ _ _ _ hnext hother]
    exact htail

/-- Where the place of the records is known, they can be exchanged. -/
theorem membersWithin_exchange (levels : ℕ) (clock : List Char) (first : Bool) (p : Placed)
    (s : List Char) (p' : Placed) (rest start stop : List Char) (hplace : p.place = none)
    (h : membersWithin (memberPlaced levels) clock first p s = .ok (p', rest))
    (hplace' : p'.place = some (start, stop)) :
    ∃ before known, s = before ++ start ∧ 0 < before.length ∧
      readRecords levels start = .ok (known, stop) ∧ p'.draft.records = some known ∧
        Exchangeable levels first p.draft before stop p'.draft rest := by
  induction clock generalizing first p s with
  | nil => cases h
  | cons tick clock ih =>
    obtain ⟨key, t, hkey, hmembers⟩ := (bind_eq_ok_iff _ _ s p' rest).mp h
    cases key with
    | none =>
      cases hmembers
      rw [hplace] at hplace'
      cases hplace'
    | some key =>
      obtain ⟨used, rfl, hu⟩ := nextKey_local first s (some key) t hkey
      obtain ⟨p₁, w, hp₁, hrest⟩ := (bind_eq_ok_iff _ _ t p' rest).mp hmembers
      obtain ⟨hmember, hplace₁⟩ := memberPlaced_eq_ok levels key p t p₁ w hp₁
      by_cases hrecords : key = "records"
      · subst hrecords
        obtain ⟨hnone, v, known, hcolon, hknown, hdraft⟩ :=
          member_records_inv levels p.draft t p₁.draft w hmember
        obtain ⟨hknown', hplace'', hafter⟩ := membersWithin_after levels clock false p₁ w p' rest
          known (by rw [hdraft]) hrest
        rw [if_pos rfl, hcolon, List.drop_one, List.tail_cons] at hplace₁
        rw [hplace'', hplace₁] at hplace'
        obtain ⟨rfl, rfl⟩ := Prod.mk.inj (Option.some.inj hplace')
        obtain ⟨space, rfl, hskip⟩ := skipSpace_cons t ':' v hcolon
        rw [hdraft] at hafter
        exact ⟨used ++ (space ++ [':']), known, by simp, by simp, hknown, hknown',
          exchangeable_records levels first _ _ used space v w rest hnone hu hskip hafter⟩
      · rw [if_neg hrecords] at hplace₁
        obtain ⟨taken, rfl, htaken, hv⟩ := local_member levels key p.draft t p₁.draft w hmember
        obtain ⟨before, known, rfl, hbefore, hknown, hknown', hlater⟩ :=
          ih false p₁ w (hplace₁.trans hplace) hrest
        have hlength : 0 < (used ++ (taken ++ before)).length := by
          simp only [List.length_append]
          omega
        exact ⟨used ++ (taken ++ before), known, by simp, hlength, hknown, hknown',
          exchangeable_later levels first key _ _ _ used taken before start stop rest htaken hbefore
            hu hv hlater⟩

/-- Where the records of a request stand, and that others may stand there. -/
theorem ofText_placed (text : String) (q : Request) (start stop : List Char)
    (hq : ofText text = .ok q) (hplace : recordsPlace? text = some (start, stop)) :
    ∃ before, text.toList = before ++ start ∧
      readRecords 126 start = .ok (q.records, stop) ∧
        ∀ source records, readRecords 126 (source ++ stop) = .ok (records, stop) →
          ofText (String.ofList (before ++ (source ++ stop))) = .ok { q with records } := by
  unfold recordsPlace? at hplace
  split at hplace
  · next s hskip =>
    split at hplace
    · next p u hp =>
      obtain ⟨t, hp, hclose⟩ := (enclosed_eq_ok_iff _ _ _ s u p).mp hp
      obtain ⟨before, known, hsplit, -, hknown, hrecords, hexchange⟩ :=
        membersWithin_exchange 126 s true .start s p t start stop rfl hp hplace
      obtain ⟨lead, hlead, hagain⟩ := skipSpace_cons text.toList '{' s hskip
      -- whatever fields are read behind the bracket, these are the request
      have hread (r : List Char) (d : Draft)
          (hd : members (member 126) Placed.start.draft r = .ok (d, t)) :
          reader levels (lead ++ '{' :: r) = .ok (d.complete, u) := by
        have hobject : inObject (fromObject 126) r = .ok (d.complete, u) :=
          (enclosed_eq_ok_iff _ _ _ _ _ _).mpr
            ⟨t, (map_eq_ok_iff Draft.complete _ _ _ _).mpr ⟨d, hd, rfl⟩, hclose⟩
        simp only [reader, structured, hagain]
        exact hobject
      have hwhole := hread s p.draft (membersWithin_placed 126 s true .start s p t hp)
      obtain ⟨rest, hq, hend⟩ := (run_eq_ok_iff _ text q).mp hq
      rw [← hlead, hq] at hwhole
      cases hwhole
      refine ⟨lead ++ '{' :: before, by rw [hlead, hsplit]; simp, ?_, fun source records hs => ?_⟩
      · rw [hknown]
        simp [Draft.complete, hrecords]
      · have hmembers := hexchange source records hs _ le_rfl
        rw [ofText, run_eq_ok_iff, String.toList_ofList]
        refine ⟨u, ?_, hend⟩
        have hother := hread _ _ hmembers
        rw [List.append_assoc, List.cons_append]
        exact hother
    · cases hplace
  · cases hplace

/-- With the text of another list for its records, a request is read as before, but for
its records. -/
theorem ofText_withRecords (text source text' : String) (q : Request) (records : List Record)
    (hq : ofText text = .ok q) (htext : withRecords? text source = some text')
    (hsource : readRecords 126 source.toList = .ok (records, [])) :
    ofText text' = .ok { q with records } := by
  obtain ⟨⟨start, stop⟩, hplace, rfl⟩ := Option.map_eq_some_iff.mp htext
  obtain ⟨before, hbefore, -, hexchange⟩ := ofText_placed text q start stop hq hplace
  obtain ⟨used, hused, -, hu⟩ := local_readRecords 126 _ records [] hsource
  rw [List.append_nil] at hused
  have htake : text.toList.take (text.toList.length - start.length) = before := by
    rw [hbefore, List.length_append, Nat.add_sub_cancel, List.take_left]
  have hread := hu stop trivial
  rw [← hused] at hread
  simp only [htake]
  exact hexchange source.toList records hread

end Screening.Request
