import Screening.Json.Decode
import Screening.Proofs.Layout

/-!
# Tagged values

A tagged value that is written with its tag first is read as that tag and its
other fields, each as it stands. What the fields amount to is decided later.
-/

set_option autoImplicit false

namespace Screening.Json

variable {α τ : Type}

theorem variant_written (known : List (String × τ)) (word : String) (t : τ)
    (hword : known.lookup word = some t) (blank u : List Char) (hblank : blank.all isSpace = true) :
    variant known (blank ++ (stringChars word ++ u)) = .ok (t, u) := by
  have hskip := skipSpace_blank blank (stringChars word ++ u) hblank
  rw [stringChars_append] at hskip ⊢
  have hname : variantName (blank ++ '"' :: (word.toList.flatMap escapeChar ++ '"' :: u)) =
      .ok (word, u) := by
    unfold variantName
    rw [hskip]
    exact stringBody_written word u
  unfold variant settled
  simp only [bind_run, hname, hword]
  rfl

def taggedMember (key : String) (tag : Reader τ) (levels : ℕ) (name : String) (read : Tagged τ) :
    Reader (Tagged τ) :=
  if name = key then do
    return { read with tag := ← once key read.tag tag }
  else do
    colon
    return { read with fields := (name, ← value levels) :: read.fields }

def taggedObject (key : String) (tag : Reader τ) (levels : ℕ) : Reader (τ × Json) := do
  let read ← members (taggedMember key tag levels) ⟨none, []⟩
  return (← required key read.tag, .object read.fields.reverse)

theorem tagged_object (key expected : String) (tag : Reader τ) (levels : ℕ) (s : List Char) :
    tagged key expected tag (levels + 1) ('{' :: s) = inObject (taggedObject key tag levels) s :=
  rfl

def taggedNext (key : String) (t : τ) (name : String) (j : Json) (read : Tagged τ) :
    Option (Tagged τ) :=
  if name = key then if read.tag.isNone then some { read with tag := some t } else none
  else some { read with fields := (name, j) :: read.fields }

theorem foldlM_taggedNext (key : String) (t : τ) (fields : List (String × Json))
    (hfields : ∀ m ∈ fields, m.1 ≠ key) (read : Tagged τ) :
    fields.foldlM (fun read m => taggedNext key t m.1 m.2 read) read =
      some { read with fields := fields.reverse ++ read.fields } := by
  induction fields generalizing read with
  | nil => rfl
  | cons m fields ih =>
    obtain ⟨hm, hfields⟩ := List.forall_mem_cons.mp hfields
    rw [List.foldlM_cons, taggedNext, if_neg hm, Option.bind_eq_bind, Option.bind_some,
      ih hfields]
    simp

section Written

variable (l : Layout) (level k : ℕ) (key : String) (known : List (String × τ)) (word : String)
  (t : τ) (hword : known.lookup word = some t) (fields : List (String × Json))
  (hfields : ∀ m ∈ fields, m.1 ≠ key)
  (hsource : ∀ m ∈ fields, IsSource (value k) (l.chars (level + 1) m.2) m.2)

include hword hfields hsource

theorem steps_taggedMember :
    l.Steps level (taggedMember key (variant known) k) (taggedNext key t)
      ((key, .string word) :: fields) := by
  intro m hm read read' hread u hu
  have hcolon (s : List Char) : colon (':' :: s) = .ok ((), s) := (colon_eq_ok_iff _ _ ()).mpr rfl
  by_cases hkey : m.1 = key
  · have hm : m = (key, .string word) := by
      rcases List.mem_cons.mp hm with h | h
      · exact h
      · exact absurd hkey (hfields m h)
    subst hm
    rw [taggedNext, if_pos rfl] at hread
    split at hread
    · next hnone =>
      cases hread
      have htag := variant_written known word t hword l.afterColon u l.blank_afterColon
      have honce := once_colon key (variant known) _ t u htag
      rw [taggedMember, if_pos rfl, Option.isNone_iff_eq_none.mp hnone]
      exact (bind_eq_ok_iff _ _ _ _ _).mpr ⟨some t, u, honce, rfl⟩
    · cases hread
  · have hm : m ∈ fields := by
      rcases List.mem_cons.mp hm with h | h
      · exact absurd (congrArg Prod.fst h) hkey
      · exact h
    rw [taggedNext, if_neg hkey] at hread
    cases hread
    have hvalue := hsource m hm u hu
    rw [← value_blank k _ _ l.blank_afterColon] at hvalue
    rw [taggedMember, if_neg hkey]
    exact (bind_eq_ok_iff _ _ _ _ _).mpr ⟨(), _, hcolon _,
      (map_eq_ok_iff (fun j => { read with fields := (m.1, j) :: read.fields }) _ _ _ u).mpr
        ⟨m.2, hvalue, rfl⟩⟩

/-- A tagged object is read as its tag and its other fields. -/
theorem tagged_written (expected : String) (u : List Char) :
    tagged key expected (variant known) (k + 1)
        (l.chars level (.object ((key, .string word) :: fields)) ++ u) =
      .ok ((t, .object fields), u) := by
  have hsteps := steps_taggedMember l level k key known word t hword fields hfields hsource
  have hfinal : ((key, Json.string word) :: fields).foldlM
      (fun read m => taggedNext key t m.1 m.2 read) ⟨none, []⟩ =
        some ⟨some t, fields.reverse⟩ := by
    rw [List.foldlM_cons, taggedNext, if_pos rfl]
    simpa using foldlM_taggedNext key t fields hfields ⟨some t, []⟩
  have hmembers := l.members_objectBody level _ _ _ hsteps ⟨none, []⟩ _ hfinal u
  have hcontents : taggedObject key (variant known) k
      (l.objectBody level ((key, .string word) :: fields) ++ u) =
        .ok ((t, .object fields), '}' :: u) := by
    apply (bind_eq_ok_iff _ _ _ _ _).mpr
    refine ⟨_, _, hmembers, ?_⟩
    show Except.ok ((t, Json.object fields.reverse.reverse), '}' :: u) = _
    rw [List.reverse_reverse]
  rw [Layout.chars, List.cons_append, tagged_object]
  exact (enclosed_eq_ok_iff _ _ _ _ _ _).mpr ⟨_, hcontents, rfl⟩

/-- Reading a tagged value from a text of its own, and decoding its fields. -/
theorem run_tagged_written (expected : String) (ofFields : τ → Json → Except Cause α) (a : α)
    (hdecode : ofFields t (.object fields) = .ok a) (text : String)
    (htext : text.toList = l.chars level (.object ((key, .string word) :: fields))) :
    Reader.run (do
        let (t, fields) ← tagged key expected (variant known) (k + 1)
        decoded (ofFields t fields)) text = .ok a := by
  have htagged := tagged_written l level k key known word t hword fields hfields hsource expected []
  rw [run_eq_ok_iff, htext]
  rw [List.append_nil] at htagged
  refine ⟨[], (bind_eq_ok_iff _ _ _ _ _).mpr ⟨_, _, htagged, ?_⟩, rfl⟩
  simp only [hdecode]
  rfl

end Written

theorem asList_written (decode : Decoder α) (encode : α → Json) (as : List α)
    (h : ∀ a ∈ as, decode (encode a) = .ok a) :
    asList decode (.array (as.map encode)) = .ok as := by
  show (as.map encode).mapM decode = .ok as
  induction as with
  | nil => rfl
  | cons a as ih =>
    obtain ⟨ha, has⟩ := List.forall_mem_cons.mp h
    rw [List.map_cons, List.mapM_cons, ha, ih has]
    rfl

theorem natural_eq_whole (n : ℕ) (h : n ≤ 18446744073709551615) :
    ∃ w : Whole, w.val = n ∧ natural n = .number (.whole w) := by
  have hrange : -9223372036854775808 ≤ (n : ℤ) ∧ (n : ℤ) ≤ 18446744073709551615 := by omega
  refine ⟨⟨n, hrange.1, hrange.2⟩, rfl, ?_⟩
  rw [natural, Whole.ofInt?, dif_pos hrange]

theorem asCount_natural (n : ℕ) (h : n ≤ 18446744073709551615) : asCount (natural n) = .ok n := by
  obtain ⟨w, hval, hw⟩ := natural_eq_whole n h
  rw [hw, asCount, hval, if_neg (by omega), Int.toNat_natCast]

end Screening.Json
