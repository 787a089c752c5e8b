import Screening.Proofs.Sorted
import Screening.Proofs.Tagged

/-!
# Responses that are read again

A response without doubles is the response that is read from its text, in
either layout. Its counts fit in sixty-four bits, and the whole document is
nested no deeper than the reader goes.
-/

set_option autoImplicit false

namespace Screening

def Number.isWhole : Number → Bool
  | .whole _ => true
  | .float _ => false

def Json.FloatFree (j : Json) : Prop := ∀ n ∈ j.numbers, n.isWhole = true

instance (j : Json) : Decidable j.FloatFree :=
  inferInstanceAs (Decidable (∀ n ∈ j.numbers, n.isWhole = true))

theorem Json.readsBack_of_floatFree (j : Json) (h : j.FloatFree) : j.ReadsBack := by
  intro n hn
  cases n with
  | whole w => exact Number.readsBack_whole w
  | float x => cases h _ hn

theorem Json.readsBack_natural (n : ℕ) (h : n ≤ 18446744073709551615) :
    (natural n).ReadsBack := by
  obtain ⟨w, -, hw⟩ := natural_eq_whole n h
  rw [hw]
  intro m hm
  rw [List.mem_singleton.mp hm]
  exact Number.readsBack_whole w

theorem readsBack_recordsToJson (records : List Record)
    (h : ∀ r ∈ records, r.value.ReadsBack) : (recordsToJson records).ReadsBack := by
  intro n hn
  rw [recordsToJson, Json.numbers, Json.numbersOfItems_eq_flatMap, List.flatMap_map] at hn
  obtain ⟨r, hr, hn⟩ := List.mem_flatMap.mp hn
  exact h r hr n hn

namespace Response

def CountsFit : Response → Prop
  | success _ originalCount filteredCount =>
    originalCount ≤ 18446744073709551615 ∧ filteredCount ≤ 18446744073709551615
  | error .. => True

def status : Response → Status
  | success .. => .success
  | error .. => .error

def fields : Response → List (String × Json)
  | success records originalCount filteredCount =>
    [("filteredRecords", recordsToJson records), ("originalCount", .natural originalCount),
      ("filteredCount", .natural filteredCount)]
  | error records message =>
    [("originalRecords", recordsToJson records), ("errorMessage", .string message)]

theorem toJson_eq (r : Response) :
    r.toJson = .object (("status", .string r.status.word) :: r.fields) := by
  cases r <;> rfl

theorem fields_ne_status (r : Response) : ∀ m ∈ r.fields, m.1 ≠ "status" := by
  cases r <;> simp [fields]

theorem lookup_status (s : Status) : statuses.lookup s.word = some s := by
  cases s <;> rfl

theorem asRecords_recordsToJson (records : List Record) :
    asRecords (recordsToJson records) = .ok records :=
  Json.asList_written Record.decode Record.value records fun r _ =>
    congrArg Except.ok r.ofJson_value

theorem ofFields_fields (r : Response) (h : r.CountsFit) :
    ofFields r.status (.object r.fields) = .ok r := by
  cases r with
  | success records originalCount filteredCount =>
    have hrecords := asRecords_recordsToJson records
    have horiginal := Json.asCount_natural originalCount h.1
    have hfiltered := Json.asCount_natural filteredCount h.2
    simp only [ofFields, status, fields, ofMembers, Json.foldMembers, List.foldlM_cons,
      List.foldlM_nil, successMember]
    simp [Json.decodeOnce, hrecords, horiginal, hfiltered, bind, Except.bind, pure, Except.pure,
      Json.present]
  | error records message =>
    have hrecords := asRecords_recordsToJson records
    simp only [ofFields, status, fields, ofMembers, Json.foldMembers, List.foldlM_cons,
      List.foldlM_nil, errorMember]
    simp [Json.decodeOnce, hrecords, Json.asText, bind, Except.bind, pure, Except.pure,
      Json.present]

def layout (pretty : Bool) : Json.Layout := if pretty then .indented else .compact

theorem toList_text (r : Response) (pretty : Bool) :
    (r.text pretty).toList = (layout pretty).chars 0 r.toJson := by
  cases pretty with
  | true => simp [text, layout, Json.indented, Json.Layout.chars_indented]
  | false => simp [text, layout, Json.compact, Json.Layout.chars_compact]

/-- A response whose numbers are found again is read from its text. -/
theorem run_text_of_readsBack (r : Response) (pretty : Bool) (hdepth : r.toJson.depth ≤ Json.levels)
    (hnumbers : r.toJson.ReadsBack) (hcounts : r.CountsFit) :
    (reader Json.levels).run (r.text pretty) = .ok r := by
  have htext := r.toList_text pretty
  rw [toJson_eq] at hdepth hnumbers htext
  have hlevels : Json.depthOfMembers (("status", .string r.status.word) :: r.fields) ≤ 126 :=
    Nat.le_of_succ_le_succ hdepth
  have hmembers := (layout pretty).isSource_members _ 0 126 hlevels hnumbers
  exact Json.run_tagged_written (layout pretty) 0 126 "status" statuses r.status.word r.status
    (lookup_status r.status) r.fields r.fields_ne_status
    (fun m hm => hmembers m (List.mem_cons_of_mem _ hm)) "internally tagged enum FilterResponse"
    ofFields r (ofFields_fields r hcounts) _ htext

theorem readsBack_toJson (r : Response) (hrecords : ∀ record ∈ r.records, record.value.ReadsBack)
    (hcounts : r.CountsFit) : r.toJson.ReadsBack := by
  cases r with
  | success records originalCount filteredCount =>
    have hr := readsBack_recordsToJson records hrecords
    have ho := Json.readsBack_natural originalCount hcounts.1
    have hf := Json.readsBack_natural filteredCount hcounts.2
    intro n hn
    simp only [toJson, Json.numbers, Json.numbersOfMembers, List.append_nil, List.nil_append,
      List.mem_append] at hn
    rcases hn with h | h | h
    · exact hr n h
    · exact ho n h
    · exact hf n h
  | error records message =>
    have hr := readsBack_recordsToJson records hrecords
    intro n hn
    simp only [toJson, Json.numbers, Json.numbersOfMembers, List.append_nil, List.nil_append] at hn
    exact hr n hn

/-- A response whose records hold no double is read again from its text, compact or
indented, as exactly that response. -/
theorem run_text_floatFree (r : Response) (pretty : Bool) (hdepth : r.toJson.depth ≤ Json.levels)
    (hrecords : ∀ record ∈ r.records, record.value.FloatFree) (hcounts : r.CountsFit) :
    (reader Json.levels).run (r.text pretty) = .ok r :=
  run_text_of_readsBack r pretty hdepth
    (readsBack_toJson r (fun record hr => Json.readsBack_of_floatFree _ (hrecords record hr))
      hcounts) hcounts

/-- The bounds of whole numbers, quotes, line breaks, other alphabets and empty
containers, all indented. -/
theorem run_text_indented_nested :
    let least : Whole := ⟨-9223372036854775808, by decide, by decide⟩
    let greatest : Whole := ⟨18446744073709551615, by decide, by decide⟩
    let nested : Record := ⟨.object [("\n\"é", .array []), ("λ", .object [])], by decide +kernel⟩
    let bounds : Record := ⟨.array [.number (.whole least), .number (.whole greatest)], rfl⟩
    let r := success [nested, bounds] 18446744073709551615 2
    r.toJson.depth ≤ Json.levels ∧ (∀ record ∈ r.records, record.value.FloatFree) ∧ r.CountsFit ∧
      (reader Json.levels).run (r.text true) = .ok r := by
  intro least greatest nested bounds r
  have hdepth : r.toJson.depth ≤ Json.levels := by decide
  have hrecords : ∀ record ∈ r.records, record.value.FloatFree := by
    simp only [r, records, List.forall_mem_cons]
    exact ⟨by decide, by decide, by simp⟩
  have hcounts : r.CountsFit := ⟨le_refl _, by decide⟩
  exact ⟨hdepth, hrecords, hcounts, run_text_floatFree r true hdepth hrecords hcounts⟩

end Response

end Screening
