import Screening.Proofs.Nesting

/-!
# Where the members of an object stand

An object is read once more with the text of each member beside its value. The
members are the same, and each value is read again from its own text wherever
that text is put.
-/

set_option autoImplicit false

namespace Screening.Json

variable {α β σ τ : Type}

theorem textEnd_eq_ok_iff (s rest : List Char) (a : Unit) :
    textEnd s = .ok (a, rest) ↔ skipSpace s = [] ∧ rest = [] := by
  unfold textEnd
  cases skipSpace s <;> simp [faultAhead, eq_comm]

theorem run_eq_ok_iff (reader : Reader α) (text : String) (a : α) :
    reader.run text = .ok a ↔ ∃ t, reader text.toList = .ok (a, t) ∧ skipSpace t = [] := by
  have hwhole : reader.run text = .ok a ↔
      ∃ rest, (do let a ← reader; textEnd; pure a : Reader α) text.toList = .ok (a, rest) := by
    unfold Reader.run
    split
    · next b rest hb => simp [hb]
    · next e he => simp [he]
  rw [hwhole]
  constructor
  · rintro ⟨rest, h⟩
    obtain ⟨b, t, hb, h⟩ := (bind_eq_ok_iff _ _ _ _ _).mp h
    obtain ⟨done, u, hend, h⟩ := (bind_eq_ok_iff _ _ _ _ _).mp h
    cases h
    exact ⟨t, hb, ((textEnd_eq_ok_iff t rest done).mp hend).1⟩
  · rintro ⟨t, hb, hend⟩
    exact ⟨[], (bind_eq_ok_iff _ _ _ _ _).mpr ⟨a, t, hb, (bind_eq_ok_iff _ _ _ _ _).mpr
      ⟨(), [], (textEnd_eq_ok_iff t [] ()).mpr ⟨hend, rfl⟩, rfl⟩⟩⟩

theorem keyword_value (value : α) (word s : List Char) (a : α) (rest : List Char)
    (h : keyword value word s = .ok (a, rest)) : a = value := by
  induction word generalizing s with
  | nil => cases h; rfl
  | cons c word ih =>
    cases s with
    | nil => cases h
    | cons d s =>
      rw [keyword] at h
      split at h
      · exact ih s h
      · cases h

theorem enclosed_map_eq_ok_iff (leave : List Char → List Char) (close : Reader Unit)
    (contents : Reader α) (f : α → β) (s : List Char) (b : β) (rest : List Char) :
    enclosed leave close (f <$> contents) s = .ok (b, rest) ↔
      ∃ a, enclosed leave close contents s = .ok (a, rest) ∧ f a = b := by
  simp only [enclosed_eq_ok_iff, map_eq_ok_iff]
  constructor
  · rintro ⟨t, ⟨a, ha, rfl⟩, hclose⟩
    exact ⟨a, ⟨t, ha, hclose⟩, rfl⟩
  · rintro ⟨a, ⟨t, ha, hclose⟩, rfl⟩
    exact ⟨t, ⟨a, ha, rfl⟩, hclose⟩

theorem arrayOf_eq_ok_iff (item : Reader Json) (s : List Char) (j : Json) (rest : List Char) :
    arrayOf item s = .ok (j, rest) ↔
      ∃ as, inList (items item true) s = .ok (as, rest) ∧ array as = j :=
  enclosed_map_eq_ok_iff _ _ _ array s j rest

theorem objectOf_eq_ok_iff (item : Reader Json) (s : List Char) (j : Json) (rest : List Char) :
    objectOf item s = .ok (j, rest) ↔
      ∃ read, inObject (members (memberAsValue item) []) s = .ok (read, rest) ∧
        object read.reverse = j :=
  enclosed_map_eq_ok_iff leaveObject closeObject (members (memberAsValue item) [])
    (fun read => object read.reverse) s j rest

/-- Only a bracket starts an array or an object. -/
theorem valueFrom_nested (inner : Option (Reader Json)) (c : Char) (s : List Char) (j : Json)
    (rest : List Char) (h : valueFrom inner c s = .ok (j, rest)) :
    ((∀ as, j ≠ .array as) ∧ ∀ ms, j ≠ .object ms) ∨
      (c = '[' ∧ ∃ item, inner = some item ∧ arrayOf item s = .ok (j, rest)) ∨
      (c = '{' ∧ ∃ item, inner = some item ∧ objectOf item s = .ok (j, rest)) := by
  unfold valueFrom at h
  split at h
  · left
    simp [keyword_value _ _ _ _ _ h]
  split at h
  · left
    simp [keyword_value _ _ _ _ _ h]
  split at h
  · left
    simp [keyword_value _ _ _ _ _ h]
  split at h
  · left
    obtain ⟨n, -, rfl⟩ := (map_eq_ok_iff _ _ _ _ _).mp h
    simp
  split at h
  · left
    obtain ⟨n, -, rfl⟩ := (map_eq_ok_iff _ _ _ _ _).mp h
    simp
  split at h
  · left
    obtain ⟨n, -, rfl⟩ := (map_eq_ok_iff _ _ _ _ _).mp h
    simp
  split at h
  · next hc =>
    right; left
    cases inner with
    | none => cases h
    | some item => exact ⟨hc, item, rfl, h⟩
  split at h
  · next hc =>
    right; right
    cases inner with
    | none => cases h
    | some item => exact ⟨hc, item, rfl, h⟩
  · cases h

theorem value_nested (levels : ℕ) (s : List Char) (j : Json) (rest : List Char)
    (h : value levels s = .ok (j, rest)) (hnested : (∃ as, j = .array as) ∨ ∃ ms, j = .object ms) :
    ∃ inner t, levels = inner + 1 ∧
      ((skipSpace s = '[' :: t ∧ arrayOf (value inner) t = .ok (j, rest)) ∨
        (skipSpace s = '{' :: t ∧ objectOf (value inner) t = .ok (j, rest))) := by
  have haround : ∃ inner, valueAround inner s = .ok (j, rest) ∧
      ∀ item, inner = some item → ∃ n, levels = n + 1 ∧ item = value n := by
    cases levels with
    | zero => exact ⟨none, h, fun item hi => nomatch hi⟩
    | succ n => exact ⟨some (value n), h, fun item hi => ⟨n, rfl, (Option.some.inj hi).symm⟩⟩
  obtain ⟨inner, hvalue, hlevels⟩ := haround
  cases hskip : skipSpace s with
  | nil => exact absurd hvalue (valueAround_nil inner s j rest hskip)
  | cons c t =>
    rw [valueAround_eq inner s c t hskip] at hvalue
    rcases valueFrom_nested inner c t j rest hvalue with
      ⟨harray, hobject⟩ | ⟨rfl, item, hitem, hread⟩ | ⟨rfl, item, hitem, hread⟩
    · rcases hnested with ⟨as, has⟩ | ⟨ms, hms⟩
      · exact absurd has (harray as)
      · exact absurd hms (hobject ms)
    · obtain ⟨n, hn, rfl⟩ := hlevels item hitem
      exact ⟨n, t, hn, .inl ⟨rfl, hread⟩⟩
    · obtain ⟨n, hn, rfl⟩ := hlevels item hitem
      exact ⟨n, t, hn, .inr ⟨rfl, hread⟩⟩

theorem value_array (levels : ℕ) (s : List Char) (as : List Json) (rest : List Char)
    (h : value levels s = .ok (.array as, rest)) :
    ∃ inner t, levels = inner + 1 ∧ skipSpace s = '[' :: t ∧
      inList (items (value inner) true) t = .ok (as, rest) := by
  obtain ⟨inner, t, hlevels, ⟨hskip, hread⟩ | ⟨-, hread⟩⟩ :=
    value_nested levels s _ rest h (.inl ⟨as, rfl⟩)
  · obtain ⟨bs, hbs, hb⟩ := (arrayOf_eq_ok_iff _ t _ rest).mp hread
    cases hb
    exact ⟨inner, t, hlevels, hskip, hbs⟩
  · obtain ⟨read, -, hread⟩ := (objectOf_eq_ok_iff _ t _ rest).mp hread
    cases hread

theorem value_object (levels : ℕ) (s : List Char) (ms : List (String × Json)) (rest : List Char)
    (h : value levels s = .ok (.object ms, rest)) :
    ∃ inner t, levels = inner + 1 ∧ skipSpace s = '{' :: t ∧
      inObject (members (memberAsValue (value inner)) []) t = .ok (ms.reverse, rest) := by
  obtain ⟨inner, t, hlevels, ⟨-, hread⟩ | ⟨hskip, hread⟩⟩ :=
    value_nested levels s _ rest h (.inr ⟨ms, rfl⟩)
  · obtain ⟨as, -, has⟩ := (arrayOf_eq_ok_iff _ t _ rest).mp hread
    cases has
  · obtain ⟨read, hr, hread⟩ := (objectOf_eq_ok_iff _ t _ rest).mp hread
    cases hread
    rw [List.reverse_reverse]
    exact ⟨inner, t, hlevels, hskip, hr⟩

def sourced (reader : Reader α) : Reader (List Char × α) := fun s =>
  match reader s with
  | .ok (a, rest) => .ok ((s.take (s.length - rest.length), a), rest)
  | .error e => .error e

theorem sourced_of_eq_ok (reader : Reader α) (used rest : List Char) (a : α)
    (h : reader (used ++ rest) = .ok (a, rest)) :
    sourced reader (used ++ rest) = .ok ((used, a), rest) := by
  simp [sourced, h]

def memberAsSource (item : Reader Json) (key : String)
    (read : List (String × List Char × Json)) : Reader (List (String × List Char × Json)) := do
  colon
  return (key, ← sourced item) :: read

/-- One loop over members follows another that is told the same keys. -/
theorem membersWithin_simulation (R : σ → τ → Prop) (member : String → σ → Reader σ)
    (other : String → τ → Reader τ)
    (hstep : ∀ key a b s b' rest, R a b → other key b s = .ok (b', rest) →
      ∃ a', member key a s = .ok (a', rest) ∧ R a' b')
    (clock : List Char) (first : Bool) (a : σ) (b : τ) (hR : R a b) (s : List Char) (b' : τ)
    (rest : List Char) (h : membersWithin other clock first b s = .ok (b', rest)) :
    ∃ a', membersWithin member clock first a s = .ok (a', rest) ∧ R a' b' := by
  induction clock generalizing first a b s with
  | nil => cases h
  | cons tick clock ih =>
    obtain ⟨key, t, hkey, h⟩ := (bind_eq_ok_iff _ _ s b' rest).mp h
    cases key with
    | none =>
      cases h
      exact ⟨a, (bind_eq_ok_iff _ _ _ _ _).mpr ⟨none, rest, hkey, rfl⟩, hR⟩
    | some key =>
      obtain ⟨c, w, hc, hrest⟩ := (bind_eq_ok_iff _ _ t b' rest).mp h
      obtain ⟨d, hd, hRdc⟩ := hstep key a b t c w hR hc
      obtain ⟨a', ha', hR'⟩ := ih false d c hRdc w hrest
      exact ⟨a', (bind_eq_ok_iff _ _ _ _ _).mpr ⟨some key, t, hkey,
        (bind_eq_ok_iff _ _ _ _ _).mpr ⟨d, w, hd, ha'⟩⟩, hR'⟩

/-- A text from which a value is read, whatever follows it that cannot go on a number. -/
def IsSource (item : Reader Json) (source : List Char) (j : Json) : Prop :=
  ∀ u, u.head?.all (fun c => !goesOn c) = true → item (source ++ u) = .ok (j, u)

def Traces (item : Reader Json) (traced : List (String × List Char × Json))
    (read : List (String × Json)) : Prop :=
  traced.map (fun m => (m.1, m.2.2)) = read ∧ ∀ m ∈ traced, IsSource item m.2.1 m.2.2

theorem memberAsSource_simulation (item : Reader Json) (hitem : Local .number 1 item)
    (key : String) (traced : List (String × List Char × Json)) (read : List (String × Json))
    (s : List Char) (read' : List (String × Json)) (rest : List Char)
    (htraces : Traces item traced read)
    (h : memberAsValue item key read s = .ok (read', rest)) :
    ∃ traced', memberAsSource item key traced s = .ok (traced', rest) ∧
      Traces item traced' read' := by
  obtain ⟨done, t, hcolon, h⟩ := (bind_eq_ok_iff _ _ s read' rest).mp h
  obtain ⟨j, hj, rfl⟩ := (map_eq_ok_iff (fun j => (key, j) :: read) item t read' rest).mp h
  obtain ⟨used, rfl, -, hu⟩ := hitem t j rest hj
  refine ⟨(key, used, j) :: traced, ?_, ?_, ?_⟩
  · exact (bind_eq_ok_iff _ _ _ _ _).mpr ⟨done, _, hcolon,
      (map_eq_ok_iff (fun e => (key, e) :: traced) _ _ _ _).mpr
        ⟨(used, j), sourced_of_eq_ok item used rest j hj, rfl⟩⟩
  · rw [List.map_cons, htraces.1]
  · intro m hm
    rcases List.mem_cons.mp hm with rfl | hm
    · exact fun u hgo => hu u (.inr hgo)
    · exact htraces.2 m hm

def memberSources : ℕ → Reader (List (String × List Char × Json))
  | 0 => faultAhead .tooDeep
  | levels + 1 => fun s => match skipSpace s with
    | '{' :: rest => inObject (List.reverse <$> members (memberAsSource (value levels)) []) rest
    | s => faultAhead .noValue s

theorem memberSources_of_value (levels : ℕ) (s : List Char) (ms : List (String × Json))
    (rest : List Char) (h : value levels s = .ok (.object ms, rest)) :
    ∃ inner traced, levels = inner + 1 ∧ memberSources levels s = .ok (traced, rest) ∧
      Traces (value inner) traced ms := by
  obtain ⟨inner, t, rfl, hskip, hread⟩ := value_object levels s ms rest h
  obtain ⟨u, hmembers, hclose⟩ := (enclosed_eq_ok_iff _ _ _ t rest _).mp hread
  have hnil : Traces (value inner) [] [] := ⟨rfl, fun m hm => nomatch hm⟩
  obtain ⟨traced, htraced, hmap, hsource⟩ :=
    membersWithin_simulation (Traces (value inner)) (memberAsSource (value inner))
      (memberAsValue (value inner)) (memberAsSource_simulation _ (local_value inner))
      t true [] [] hnil t ms.reverse u hmembers
  refine ⟨inner, traced.reverse, rfl, ?_, ?_, ?_⟩
  · simp only [memberSources, hskip]
    exact (enclosed_map_eq_ok_iff _ _ _ List.reverse t _ rest).mpr
      ⟨traced, (enclosed_eq_ok_iff _ _ _ t rest _).mpr ⟨u, htraced, hclose⟩, rfl⟩
  · rw [List.map_reverse, hmap, List.reverse_reverse]
  · exact fun m hm => hsource m (List.mem_reverse.mp hm)

/-- The text of the last member with a key, in a text that holds an object. -/
def lastSource? (text key : String) : Option String :=
  match (memberSources levels).run text with
  | .ok traced => (traced.reverse.lookup key).map fun m => String.ofList m.1
  | .error _ => none

theorem lookup_map_snd (traced : List (String × List Char × Json)) (key : String) :
    (traced.map fun m => (m.1, m.2.2)).lookup key = (traced.lookup key).map (·.2) := by
  induction traced with
  | nil => rfl
  | cons m traced ih =>
    obtain ⟨k, source, j⟩ := m
    rw [List.map_cons, List.lookup_cons, List.lookup_cons, ih]
    cases key == k <;> rfl

theorem lastSource_of_member (text : String) (ms : List (String × Json)) (key : String) (j : Json)
    (h : ofText text = .ok (.object ms)) (hlast : ms.reverse.lookup key = some j) :
    ∃ source, lastSource? text key = some (String.ofList source) ∧
      IsSource (value 126) source j := by
  obtain ⟨rest, hread, hend⟩ := (run_eq_ok_iff _ text _).mp h
  obtain ⟨inner, traced, hlevels, htraced, rfl, hsource⟩ :=
    memberSources_of_value levels text.toList ms rest hread
  have hinner : inner = 126 := by
    rw [levels] at hlevels
    omega
  have hrun := (run_eq_ok_iff _ text traced).mpr ⟨rest, htraced, hend⟩
  rw [← List.map_reverse, lookup_map_snd] at hlast
  obtain ⟨⟨source, k⟩, hlookup, rfl⟩ := Option.map_eq_some_iff.mp hlast
  refine ⟨source, ?_, ?_⟩
  · rw [lastSource?, hrun]
    simp only [hlookup, Option.map_some]
  · have hmem : (key, source, k) ∈ traced.reverse := by
      obtain ⟨before, after, hsplit, -⟩ := List.lookup_eq_some_iff.mp hlookup
      rw [hsplit]
      simp
    rw [← hinner]
    exact hsource _ (List.mem_reverse.mp hmem)

end Screening.Json
