import Screening.Proofs.Conjunction
import Screening.Proofs.Places
import Screening.Proofs.Responses

/-!
# Kept records that are filtered again

The records of a response are sent back in the request they came from. All of
them are kept once more if each of their numbers is found again in its text. A
double that is read as its neighbour may end up on the other side of a bound.
-/

set_option autoImplicit false

namespace Screening

theorem Request.handle_kept (q : Request) :
    handle { q with records := q.run.records } =
      .success q.run.records q.run.records.length q.run.records.length := by
  have hkept : ({ q with records := q.run.records } : Request).run.records = q.run.records :=
    runFilter_kept q.records q.rules q.table _
  obtain ⟨horiginal, hfiltered⟩ :=
    runFilter_counts q.run.records q.rules q.table (q.options.getD .standard)
  simp only [handle, FilterResult.response, hkept]
  exact congrArg₂ _ horiginal (hfiltered.trans (congrArg List.length hkept))

theorem Request.kept_subset (q : Request) (r : Record) (h : r ∈ q.run.records) :
    r ∈ q.records := by
  rw [Request.run, runFilter_records] at h
  exact List.mem_of_mem_filter h

theorem Json.forall_of_list {α : Type} (item : Nested α) (P : ℕ → α → Prop)
    (hitem : ∀ k s a rest, item k s = .ok (a, rest) → P k a) (levels : ℕ) (s : List Char)
    (as : List α) (rest : List Char) (h : list item levels s = .ok (as, rest)) :
    ∃ k, levels = k + 1 ∧ ∀ a ∈ as, P k a := by
  unfold list at h
  split at h
  · next t hskip =>
    cases levels with
    | zero => cases h
    | succ k =>
      obtain ⟨u, hitems, -⟩ := (enclosed_eq_ok_iff _ _ _ t rest as).mp h
      exact ⟨k, rfl, itemsWithin_forall (item k) (P k) (hitem k) t true t as u hitems⟩
  · exact absurd h (refuse_ne_ok _ _ _ _)

theorem Record.depth_le_of_reader (k : ℕ) (s : List Char) (r : Record) (rest : List Char)
    (h : reader k s = .ok (r, rest)) : r.value.depth ≤ k := by
  obtain ⟨j, hj, rfl⟩ := (Json.map_eq_ok_iff ofJson _ s r rest).mp h
  exact (Json.depth_sort_le j).trans (Json.depth_le_of_value k s j rest hj)

theorem Request.depth_le_of_readRecords (levels : ℕ) (s : List Char) (records : List Record)
    (rest : List Char) (h : readRecords (levels + 1) s = .ok (records, rest)) :
    ∀ r ∈ records, r.value.depth ≤ levels := by
  obtain ⟨found, hfound, rfl⟩ := (Json.map_eq_ok_iff _ _ s records rest).mp h
  unfold Json.optional at hfound
  split at hfound
  · cases Json.keyword_value _ _ _ _ _ hfound
    simp
  · obtain ⟨as, has, rfl⟩ := (Json.map_eq_ok_iff some _ _ found rest).mp hfound
    obtain ⟨k, hk, hall⟩ := Json.forall_of_list Record.reader (fun k r => r.value.depth ≤ k)
      Record.depth_le_of_reader (levels + 1) _ as rest has
    cases hk
    exact hall

theorem isSource_recordsToJson (l : Json.Layout) (levels : ℕ) (records : List Record)
    (hdepth : ∀ r ∈ records, r.value.depth ≤ levels)
    (hnumbers : ∀ r ∈ records, r.value.ReadsBack) :
    Json.IsSource (Json.value (levels + 1)) (l.chars 1 (recordsToJson records))
      (recordsToJson records) := by
  refine l.isSource_chars _ 1 (levels + 1) ?_ (readsBack_recordsToJson records hnumbers)
  simpa [recordsToJson, Json.depth, Json.depthOfItems_le_iff] using hdepth

theorem readRecords_chars (l : Json.Layout) (levels : ℕ) (records : List Record)
    (hdepth : ∀ r ∈ records, r.value.depth ≤ levels)
    (hnumbers : ∀ r ∈ records, r.value.ReadsBack) :
    Request.readRecords (levels + 1) (l.chars 1 (recordsToJson records)) = .ok (records, []) := by
  have hread := readRecords_of_value (levels + 1) _ _ _
    (isSource_recordsToJson l levels records hdepth hnumbers [] rfl)
  rw [List.append_nil, List.map_map] at hread
  simpa [Function.comp_def, Record.ofJson_value] using hread

/-- The records of a success stand in its text, in either layout, as an array by itself. -/
theorem Response.memberSource_success (records : List Record) (original filtered : ℕ)
    (pretty : Bool) (hdepth : ∀ r ∈ records, r.value.depth ≤ 125)
    (hnumbers : ∀ r ∈ records, r.value.ReadsBack) :
    Json.memberSource? "filteredRecords" ((success records original filtered).text pretty) =
      some (String.ofList ((layout pretty).chars 1 (recordsToJson records))) := by
  have hstatus : Json.IsSource (Json.value 0)
      ((layout pretty).chars 1 (.string Status.success.word)) (.string Status.success.word) :=
    (layout pretty).isSource_chars _ 1 0 (by simp [Json.depth])
      (by simp [Json.ReadsBack, Json.numbers])
  exact (layout pretty).memberSource_second 0 "status" "filteredRecords" _ _ _ (by decide)
    hstatus (isSource_recordsToJson _ 125 records hdepth hnumbers) _ (toList_text _ pretty)

/-- The records that were kept are all kept when they are sent again, as they stand in the
text of the response, in place of those that were filtered, if their numbers are found
again. They are written as before. -/
theorem handleText_withRecords_kept (text : String) (q : Request) (pretty : Bool)
    (hq : Request.ofText text = .ok q)
    (hrecords : (Json.memberStart? "records" text.toList).isSome = true)
    (hnumbers : ∀ r ∈ (handleText text).records, r.value.ReadsBack) :
    let kept := (handleText text).records
    ∃ source text', Json.memberSource? "filteredRecords" ((handleText text).text pretty) =
        some source ∧
      Request.withRecords? text source = some text' ∧
      handleText text' = .success kept kept.length kept.length ∧
      Json.memberSource? "filteredRecords" ((handleText text').text pretty) = some source := by
  have hanswer : handleText text = handle q := by rw [handleText, parseRequest, hq]
  rw [hanswer] at hnumbers ⊢
  intro kept
  rw [← Request.recordsPlace_eq_memberStart text q hq, Option.isSome_map] at hrecords
  obtain ⟨⟨start, stop⟩, hplace⟩ := Option.isSome_iff_exists.mp hrecords
  obtain ⟨-, -, hknown, -⟩ := Request.ofText_placed text q start stop hq hplace
  have hdepth : ∀ r ∈ kept, r.value.depth ≤ 125 := fun r hr =>
    Request.depth_le_of_readRecords 125 start q.records stop hknown r (q.kept_subset r hr)
  have hwritten (original filtered : ℕ) :=
    Response.memberSource_success kept original filtered pretty hdepth hnumbers
  have hsource := readRecords_chars (Response.layout pretty) 125 kept hdepth hnumbers
  rw [← String.toList_ofList (l := (Response.layout pretty).chars 1 (recordsToJson kept))]
    at hsource
  obtain ⟨text', htext⟩ : ∃ text', Request.withRecords? text
      (String.ofList ((Response.layout pretty).chars 1 (recordsToJson kept))) = some text' :=
    ⟨_, congrArg _ hplace⟩
  have hq' := Request.ofText_withRecords text _ text' q kept hq htext hsource
  have hagain : handleText text' = .success kept kept.length kept.length := by
    rw [handleText, parseRequest, hq']
    exact q.handle_kept
  refine ⟨_, text', hwritten _ _, htext, hagain, ?_⟩
  rw [hagain]
  exact hwritten _ _

def requestOver (records bound : String) : String :=
  "\x7b\"records\" :" ++ records ++ ",\"rules\":[[\"premium\",\"over\"," ++ bound ++ "]]\x7d"

/-- Two of three records are kept, and again from their indented text. -/
theorem handleText_withRecords_kept_two :
    let text := requestOver " [\x7b\"tags\":[],\"premium\":5\x7d, 7,\x7b\"premium\":\"1K\"\x7d]" "2"
    let source := "[\n    \x7b\n      \"premium\": 5,\n      \"tags\": []\n    \x7d,\n    " ++
      "\x7b\n      \"premium\": \"1K\"\n    \x7d\n  ]"
    let text' := requestOver source "2"
    (∃ q, Request.ofText text = .ok q) ∧
      (Json.memberStart? "records" text.toList).isSome = true ∧
      (∀ r ∈ (handleText text).records, r.value.ReadsBack) ∧
      Json.memberSource? "filteredRecords" ((handleText text).text true) = some source ∧
      Request.withRecords? text source = some text' ∧
      handleText text' = .success (handleText text).records 2 2 ∧
      (handleText text).records.map Record.text =
        ["\x7b\"premium\":5,\"tags\":[]\x7d", "\x7b\"premium\":\"1K\"\x7d"] := by
  intro text source text'
  have hrecords : (Json.memberStart? "records" text.toList).isSome = true := by decide +kernel
  have hfree : ∀ r ∈ (handleText text).records, r.value.FloatFree := by decide +kernel
  have hsource : Json.memberSource? "filteredRecords" ((handleText text).text true) =
      some source := by decide +kernel
  have htext : Request.withRecords? text source = some text' := by decide +kernel
  have hkept : (handleText text).records.map Record.text =
      ["\x7b\"premium\":5,\"tags\":[]\x7d", "\x7b\"premium\":\"1K\"\x7d"] := by
    decide +kernel
  have hnumbers : ∀ r ∈ (handleText text).records, r.value.ReadsBack := fun r hr =>
    Json.readsBack_of_floatFree _ (hfree r hr)
  have hread : (Request.ofText text).toOption.isSome = true := by decide +kernel
  cases hq : Request.ofText text with
  | error cause =>
    rw [hq] at hread
    cases hread
  | ok q =>
    obtain ⟨found, other, hfound, hother, hagain, -⟩ :=
      handleText_withRecords_kept text q true hq hrecords hnumbers
    cases hsource.symm.trans hfound
    cases htext.symm.trans hother
    have hlength := congrArg List.length hkept
    rw [List.length_map] at hlength
    rw [hlength] at hagain
    exact ⟨⟨q, rfl⟩, hrecords, hnumbers, hsource, htext, hagain, hkept⟩

/-- A premium above a bound is written with digits that are read as its neighbour, the bound
itself. So the record is kept the first time only. -/
theorem handleText_withRecords_neighbour :
    let text := requestOver "[\x7b\"premium\":902.27962025620019\x7d]" "902.2796202562"
    let text' := requestOver "[\x7b\"premium\":902.2796202562001\x7d]" "902.2796202562"
    (Json.memberSource? "filteredRecords" ((handleText text).text false)).bind
        (Request.withRecords? text) = some text' ∧
      (handleText text).isSuccess = true ∧
      (handleText text).records.map Record.text = ["\x7b\"premium\":902.2796202562001\x7d"] ∧
      (handleText text').isSuccess = true ∧ (handleText text').records.map Record.text = [] := by
  decide +kernel

end Screening
