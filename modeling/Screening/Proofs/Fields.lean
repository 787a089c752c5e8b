import Screening.Proofs.Depth
import Screening.Proofs.Skipping
import Screening.Request

/-!
# How far readers of a known type look

The readers of rules, tables and options take the same characters again as well,
and so does the reader of one member of a request. What they refuse does not
matter, since a refusal is no value.
-/

set_option autoImplicit false

namespace Screening

open Json

variable {α β σ : Type}

namespace Json

theorem Local.to_one {l : Lookahead} {m : ℕ} {reader : Reader α} (h : Local l m reader) :
    Local .one m reader :=
  h.weaken (fun rest u hk => l.allows_of_head rest u hk) le_rfl

/-- A reader that passes over white space, and whose first character says how it goes on. -/
theorem local_opened {l : Lookahead} {m : ℕ} {reader : Reader α}
    (h : ∀ s a rest, reader s = .ok (a, rest) → ∃ c contents, Local l m contents ∧
      (∃ t, skipSpace s = c :: t) ∧ ∀ s t, skipSpace s = c :: t → reader s = contents t) :
    Local l (m + 1) reader := by
  intro s a rest hs
  obtain ⟨c, contents, hcontents, ⟨t, hskip⟩, heq⟩ := h s a rest hs
  obtain ⟨before, rfl, hagain⟩ := skipSpace_cons s c t hskip
  rw [heq _ t hskip] at hs
  obtain ⟨used, rfl, hm, hu⟩ := hcontents t a rest hs
  refine ⟨before ++ c :: used, by simp, ?_, fun u hk => ?_⟩
  · rw [List.length_append, List.length_cons]
    omega
  · rw [List.append_assoc, List.cons_append, heq _ (used ++ u) (hagain _)]
    exact hu u hk

def quoted (expected : String) : Reader String := fun s =>
  match skipSpace s with
  | '"' :: rest => stringBody rest
  | s => refuse expected s

theorem local_quoted (expected : String) : Local .none 1 (quoted expected) := by
  refine local_opened fun s a rest h => ?_
  unfold quoted at h
  split at h
  · next t hskip =>
    exact ⟨'"', stringBody, local_stringBody.forget, ⟨t, hskip⟩,
      fun s t hs => by simp only [quoted, hs]⟩
  · exact absurd h (refuse_ne_ok _ _ _ _)

theorem local_text : Local .none 1 text := local_quoted "a string"

theorem local_variantName : Local .none 1 variantName := local_quoted "variant identifier"

theorem local_unit : Local .none 1 unit := by
  refine local_opened fun s a rest h => ?_
  unfold unit at h
  split at h
  · next t hskip =>
    exact ⟨'n', _, local_keyword () ['u', 'l', 'l'], ⟨t, hskip⟩,
      fun s t hs => by simp only [unit, hs]⟩
  · exact absurd h (refuse_ne_ok _ _ _ _)

theorem local_variantEnd : Local .none 1 variantEnd := by
  refine local_opened fun s a rest h => ?_
  unfold variantEnd at h
  split at h
  · cases h
  · next c t hskip =>
    split at h
    · next hc =>
      exact ⟨c, _, local_pure (), ⟨t, hskip⟩, fun s t hs => by
        simp only [variantEnd, hs, if_pos hc]
        rfl⟩
    · cases h

theorem local_optional {l : Lookahead} {reader : Reader α} (hreader : Local l 1 reader) :
    Local l 1 (optional reader) := by
  refine local_opened fun s a rest h => ?_
  unfold optional at h
  split at h
  · next t hskip =>
    exact ⟨'n', _, Local.of_none (local_keyword none ['u', 'l', 'l']), ⟨t, hskip⟩,
      fun s t hs => by simp only [optional, hs]⟩
  · next hnull =>
    obtain ⟨b, hb, rfl⟩ := (map_eq_ok_iff some reader _ a rest).mp h
    cases hskip : skipSpace s with
    | nil =>
      obtain ⟨used, hsplit, hused, -⟩ := hreader _ b rest hb
      rw [hskip] at hsplit
      rw [(List.append_eq_nil_iff.mp hsplit.symm).1] at hused
      simp at hused
    | cons c t =>
      refine ⟨c, _, (hreader.map some).uncons c, ⟨t, rfl⟩, fun s' t' hs => ?_⟩
      have hc : c ≠ 'n' := fun hc => hnull t (by rw [hskip, hc])
      unfold optional
      rw [hs]
      split
      · next hn => exact absurd (List.cons.inj hn).1 hc
      · rfl

theorem local_inList {contents : Reader α} (h : Local .one 0 contents) :
    Local .none 0 (inList contents) :=
  (local_enclosed leaveList closeList contents h local_closeList).forget

theorem local_inObject {contents : Reader α} (h : Local .one 0 contents) :
    Local .none 0 (inObject contents) :=
  (local_enclosed leaveObject closeObject contents h local_closeObject).forget

section Nested

variable {l : Lookahead} (item : Nested α) (hitem : ∀ levels, Local l 1 (item levels))

include hitem

theorem local_list (levels : ℕ) : Local .none 1 (list item levels) := by
  refine local_opened fun s a rest h => ?_
  unfold list at h
  split at h
  · next t hskip =>
    cases levels with
    | zero => cases h
    | succ levels =>
      refine ⟨'[', _, local_inList (local_items (item levels) (hitem levels) true), ⟨t, hskip⟩,
        fun s t hs => ?_⟩
      simp only [list, hs]
      rfl
  · exact absurd h (refuse_ne_ok _ _ _ _)

theorem local_map (member : String → α → σ → σ) (start : σ) (levels : ℕ) :
    Local .none 1 (map member start item levels) := by
  have hmember (levels : ℕ) (key : String) (state : σ) :
      Local l 1 (do colon; return member key (← item levels) state : Reader σ) :=
    ((hitem levels).map fun a => member key a state).afterColon
  refine local_opened fun s a rest h => ?_
  unfold map at h
  split at h
  · next t hskip =>
    cases levels with
    | zero => cases h
    | succ levels =>
      refine ⟨'{', _, local_inObject (local_members _ (hmember levels) start), ⟨t, hskip⟩,
        fun s t hs => ?_⟩
      simp only [map, hs]
      rfl
  · exact absurd h (refuse_ne_ok _ _ _ _)

end Nested

theorem local_structured (expected : String) (fromArray fromObject : Nested α)
    (harray : ∀ levels, Local .one 0 (fromArray levels))
    (hobject : ∀ levels, Local .one 0 (fromObject levels)) (levels : ℕ) :
    Local .none 1 (structured expected fromArray fromObject levels) := by
  refine local_opened fun s a rest h => ?_
  obtain ⟨k, t, rfl, ⟨hskip, -⟩ | ⟨hskip, -⟩⟩ := structured_eq_ok _ _ _ _ _ _ _ h
  · refine ⟨'[', _, local_inList (harray k), ⟨t, hskip⟩, fun s t hs => ?_⟩
    simp only [structured, hs]
    rfl
  · refine ⟨'{', _, local_inObject (hobject k), ⟨t, hskip⟩, fun s t hs => ?_⟩
    simp only [structured, hs]
    rfl

theorem local_unitVariant (ofName : String → α) (levels : ℕ) :
    Local .none 1 (unitVariant ofName levels) := by
  have hname (name : String) : Local .none 0
      (do colon; unit; variantEnd; pure (ofName name) : Reader α) :=
    (Local.bind local_colon (fun _ => Local.bind local_unit (fun _ => Local.bind local_variantEnd
      (fun _ => local_pure _) (.inr fun _ _ h => h)) (.inr fun _ _ h => h))
      (.inr fun _ _ h => h)).forget
  have hcontents : Local .none 0
      (do let name ← variantName; colon; unit; variantEnd; pure (ofName name) : Reader α) :=
    (Local.bind local_variantName hname (.inr fun _ _ h => h)).forget
  refine local_opened fun s a rest h => ?_
  unfold unitVariant at h
  split at h
  · cases h
  · next c t hskip =>
    split at h
    · next hc =>
      exact ⟨c, _, (local_stringBody.map ofName).forget, ⟨t, hskip⟩, fun s t hs => by
        simp only [unitVariant, hs, if_pos hc]⟩
    split at h
    · next hquote hc =>
      cases levels with
      | zero => cases h
      | succ levels =>
        refine ⟨c, _, hcontents, ⟨t, hskip⟩, fun s t hs => ?_⟩
        simp only [unitVariant, hs, if_neg hquote, if_pos hc]
        rfl
    · cases h

theorem local_once {l : Lookahead} (name : String) (earlier : Option α) {item : Reader α}
    (hitem : Local l 1 item) : Local l 1 (once name earlier item) := by
  cases earlier with
  | some a => exact local_failing fun _ _ _ h => nomatch h
  | none => exact (hitem.map some).afterColon

theorem local_skipMember : Local .one 1 skipMember := local_skip.afterColon

theorem local_required (name : String) (found : Option α) :
    Local .one 0 (required name found) := by
  cases found with
  | none => exact local_failing fun _ _ _ h => nomatch h
  | some a => exact Local.of_none (local_pure a)

theorem local_nextItem (first : Bool) : Local .one 0 (nextItem first) := by
  intro s more rest h
  obtain ⟨used, c, t, rfl, rfl, hu⟩ := nextItem_local first more s rest h
  refine ⟨used, rfl, Nat.zero_le _, fun u hk => ?_⟩
  cases u with
  | nil => cases hk
  | cons d u =>
    cases hk
    exact hu u

/-- Two readers one after the other, neither of which needs to take anything. -/
theorem Local.andThen {first : Reader α} {second : α → Reader β} (hfirst : Local .one 0 first)
    (hsecond : ∀ a, Local .one 0 (second a)) : Local .one 0 (first >>= second) :=
  Local.bind hfirst hsecond (.inr fun _ _ h => h)

theorem local_element {l : Lookahead} (first : Bool) {item : Reader α} (hitem : Local l 1 item) :
    Local .one 0 (element first item) := by
  refine Local.andThen (local_nextItem first) fun more => ?_
  cases more with
  | true => exact (hitem.map some).to_one.forget
  | false => exact Local.of_none (local_pure none)

theorem local_requiredElement {l : Lookahead} (index : ℕ) (expected : String) {item : Reader α}
    (hitem : Local l 1 item) : Local .one 0 (requiredElement index expected item) := by
  refine Local.andThen (local_element _ hitem) fun found => ?_
  cases found with
  | none => exact local_failing fun _ _ _ h => nomatch h
  | some a => exact Local.of_none (local_pure a)

theorem local_decoded (result : Except Cause α) : Local .none 0 (decoded result) := by
  cases result with
  | error e => exact local_failing fun _ _ _ h => nomatch h
  | ok a => exact local_pure a

end Json

theorem Value.local_reader (type : String) (levels : ℕ) : Local .one 1 (reader type levels) :=
  Local.bind (local_value levels).to_one (fun _ => (local_decoded _).to_one) (.inr fun _ _ h => h)

namespace Rule

theorem local_member (levels : ℕ) (key : String) (d : Draft) :
    Local .one 1 (member levels key d) := by
  refine local_ite _ ?_ (local_ite _ ?_ (local_ite _ ?_ ?_))
  · exact (local_once "name" d.name local_text).to_one.map fun name => { d with name }
  · exact (local_once "condition" d.condition (local_unitVariant _ levels)).to_one.map
      fun condition => { d with condition }
  · exact (local_once "value" d.value (Value.local_reader _ levels)).map
      fun value => { d with value }
  · exact local_skipMember.map fun _ => d

theorem local_fromObject (levels : ℕ) : Local .one 0 (fromObject levels) := by
  refine Local.andThen (local_members _ (local_member levels) _) fun d => ?_
  exact (local_required "name" d.name).map fun name =>
    Rule.mk name (d.condition.getD .unspecified) (d.value.getD .null)

theorem local_fromArray (levels : ℕ) : Local .one 0 (fromArray levels) := by
  refine Local.andThen (local_requiredElement 0 _ local_text) fun name => ?_
  refine Local.andThen (local_element false (local_unitVariant _ levels)) fun condition => ?_
  cases condition with
  | none => exact Local.of_none (local_pure _)
  | some condition =>
    exact (local_element false (Value.local_reader _ levels)).map fun value =>
      Rule.mk name condition (value.getD .null)

theorem local_reader (levels : ℕ) : Local .none 1 (reader levels) :=
  local_structured _ _ _ local_fromArray local_fromObject levels

end Rule

theorem MembershipTable.local_reader (levels : ℕ) : Local .none 1 (reader levels) :=
  local_map _ (local_list _ fun _ => local_text) _ _ levels

namespace Options

theorem local_texts (levels : ℕ) : Local .none 1 (texts levels) :=
  local_list _ (fun _ => local_text) levels

theorem local_member (levels : ℕ) (key : String) (d : Draft) :
    Local .one 1 (member levels key d) := by
  refine local_ite _ ?_ (local_ite _ ?_ (local_ite _ ?_ ?_))
  · exact (local_once key d.categorical (local_texts levels)).to_one.map
      fun categorical => { d with categorical }
  · exact (local_once key d.membership (local_texts levels)).to_one.map
      fun membership => { d with membership }
  · exact (local_once key d.symbolField local_text).to_one.map
      fun symbolField => { d with symbolField }
  · exact local_skipMember.map fun _ => d

theorem local_fromObject (levels : ℕ) : Local .one 0 (fromObject levels) :=
  (local_members _ (local_member levels) _).map Draft.complete

theorem local_fromArray (levels : ℕ) : Local .one 0 (fromArray levels) := by
  refine Local.andThen (local_element true (local_texts levels)) fun categorical => ?_
  cases categorical with
  | none => exact Local.of_none (local_pure _)
  | some categorical =>
    refine Local.andThen (local_element false (local_texts levels)) fun membership => ?_
    cases membership with
    | none => exact Local.of_none (local_pure _)
    | some membership =>
      exact (local_element false local_text).map fun symbolField =>
        Draft.complete ⟨some categorical, some membership, symbolField⟩

theorem local_reader (levels : ℕ) : Local .none 1 (reader levels) :=
  local_structured _ _ _ local_fromArray local_fromObject levels

end Options

theorem Record.local_reader (levels : ℕ) : Local .number 1 (reader levels) :=
  (local_value levels).map ofJson

namespace Request

theorem local_listOrNull {l : Lookahead} (item : Nested α)
    (hitem : ∀ levels, Local l 1 (item levels)) (levels : ℕ) :
    Local .none 1 (listOrNull item levels) :=
  (local_optional (local_list item hitem levels)).map (·.getD [])

theorem local_readRecords (levels : ℕ) : Local .none 1 (readRecords levels) :=
  local_listOrNull _ Record.local_reader levels

theorem local_member (levels : ℕ) (key : String) (d : Draft) :
    Local .one 1 (member levels key d) := by
  have hrules := local_listOrNull _ Rule.local_reader levels
  have htable := local_optional (MembershipTable.local_reader levels)
  have hoptions := local_optional (Options.local_reader levels)
  refine local_ite _ ?_ (local_ite _ ?_ (local_ite _ ?_ (local_ite _ ?_ ?_)))
  · exact (local_once key d.records (local_readRecords levels)).to_one.map
      fun records => { d with records }
  · exact (local_once key d.rules hrules).to_one.map fun rules => { d with rules }
  · exact (local_once key d.table htable).to_one.map fun table => { d with table }
  · exact (local_once key d.options hoptions).to_one.map fun options => { d with options }
  · exact local_skipMember.map fun _ => d

end Request

end Screening
