import Screening.Proofs.Accounting
import Screening.Proofs.Places

/-!
# What a response does not depend on

Whether a request is answered by a success is not a matter of its records. Each of them
may be any value, and one list of values is as good as another: in the same place of the
same text, both are answered by a success or both by an error.
-/

set_option autoImplicit false

namespace Screening

open Json

namespace Request

/-- With another array for its records, a request is read as before, but for its records. -/
theorem ofText_otherRecords (before a b after : String) (as bs : List Json) (q : Request)
    (hbefore : memberStart? "records" before.toList = some [])
    (ha : value 126 a.toList = .ok (.array as, [])) (hb : value 126 b.toList = .ok (.array bs, []))
    (hq : ofText (before ++ a ++ after) = .ok q) :
    q.records = as.map Record.ofJson ∧
      ofText (before ++ b ++ after) = .ok { q with records := bs.map Record.ofJson } := by
  have hread (c : String) (cs : List Json) (hc : value 126 c.toList = .ok (.array cs, [])) :
      readRecords 126 (c.toList ++ after.toList) = .ok (cs.map Record.ofJson, after.toList) := by
    obtain ⟨used, hused, -, hu⟩ :=
      local_readRecords 126 _ _ [] (readRecords_of_value 126 _ cs [] hc)
    rw [List.append_nil] at hused
    rw [hused]
    exact hu after.toList trivial
  have htext : (before ++ a ++ after).toList = before.toList ++ (a.toList ++ after.toList) := by
    simp
  have hstart : memberStart? "records" (before ++ a ++ after).toList =
      some (a.toList ++ after.toList) := by
    rw [htext]
    exact memberStart_append "records" before.toList _ hbefore
  rw [← recordsPlace_eq_memberStart _ q hq, Option.map_eq_some_iff] at hstart
  obtain ⟨⟨-, stop⟩, hplace, rfl⟩ := hstart
  obtain ⟨before', hbefore', hknown, hexchange⟩ := ofText_placed _ q _ stop hq hplace
  rw [hread a as ha] at hknown
  obtain ⟨hrecords, rfl⟩ := Prod.mk.inj (Except.ok.inj hknown)
  rw [htext] at hbefore'
  obtain rfl := List.append_cancel_right hbefore'
  refine ⟨hrecords.symm, ?_⟩
  have hother := hexchange b.toList _ (hread b bs hb)
  rwa [← String.toList_append, ← String.toList_append, String.ofList_toList,
    ← String.append_assoc] at hother

end Request

theorem handle_isSuccess (q : Request) : (handle q).isSuccess = true := rfl

theorem handleText_isSuccess_iff (text : String) :
    (handleText text).isSuccess = true ↔ ∃ q, Request.ofText text = .ok q := by
  unfold handleText parseRequest
  cases Request.ofText text with
  | error cause => simp [Response.isSuccess]
  | ok q => simp [handle_isSuccess]

theorem handleText_isSuccess_of_other (before a b after : String) (as bs : List Json)
    (hbefore : memberStart? "records" before.toList = some [])
    (ha : value 126 a.toList = .ok (.array as, [])) (hb : value 126 b.toList = .ok (.array bs, []))
    (hsuccess : (handleText (before ++ a ++ after)).isSuccess = true) :
    (handleText (before ++ b ++ after)).isSuccess = true := by
  obtain ⟨q, hq⟩ := (handleText_isSuccess_iff _).mp hsuccess
  exact (handleText_isSuccess_iff _).mpr
    ⟨_, (Request.ofText_otherRecords before a b after as bs q hbefore ha hb hq).2⟩

theorem handleText_originalCount (before a after : String) (as : List Json)
    (hbefore : memberStart? "records" before.toList = some [])
    (ha : value 126 a.toList = .ok (.array as, [])) (kept : List Record) (original filtered : ℕ)
    (hanswer : handleText (before ++ a ++ after) = .success kept original filtered) :
    original = as.length := by
  obtain ⟨q, hq⟩ := (handleText_isSuccess_iff _).mp (by rw [hanswer]; rfl)
  obtain ⟨hrecords, -⟩ := Request.ofText_otherRecords before a a after as as q hbefore ha ha hq
  rw [handleText, parseRequest, hq] at hanswer
  obtain ⟨hcount, -⟩ := runFilter_counts q.records q.rules q.table (q.options.getD .standard)
  injection hanswer with hkept horiginal hfiltered
  rw [← horiginal, Request.run, hcount, hrecords, List.length_map]

/-- Behind a text that leads up to the value of `records`, whatever follows, two requests that
differ only in this array are both answered by a success or both by an error. In a success
every item of the array is counted. -/
theorem handleText_otherRecords (before a b after : String) (as bs : List Json)
    (hbefore : memberStart? "records" before.toList = some [])
    (ha : value 126 a.toList = .ok (.array as, []))
    (hb : value 126 b.toList = .ok (.array bs, [])) :
    let answer (records : String) := handleText (before ++ records ++ after)
    (answer a).isSuccess = (answer b).isSuccess ∧
      (∀ kept original filtered, answer a = .success kept original filtered →
        original = as.length) ∧
      ∀ kept original filtered, answer b = .success kept original filtered →
        original = bs.length := by
  intro answer
  refine ⟨Bool.eq_iff_iff.mpr ⟨?_, ?_⟩, ?_, ?_⟩
  · exact handleText_isSuccess_of_other before a b after as bs hbefore ha hb
  · exact handleText_isSuccess_of_other before b a after bs as hbefore hb ha
  · exact handleText_originalCount before a after as hbefore ha
  · exact handleText_originalCount before b after bs hbefore hb

theorem handleText_otherRecords_rules :
    let before := "\x7b\"rules\":[[\"premium\",\"over\",2]],\"records\":"
    let answer (records : String) := handleText (before ++ records ++ "\x7d")
    memberStart? "records" before.toList = some [] ∧
      value 126 "[null,[true]]".toList = .ok (.array [.null, .array [.bool true]], []) ∧
      value 126 "[]".toList = .ok (.array [], []) ∧ (answer "[]").isSuccess = true ∧
      (answer "[null,[true]]").isSuccess = (answer "[]").isSuccess ∧
      (∀ kept original filtered, answer "[null,[true]]" = .success kept original filtered →
        original = 2) ∧
      ∀ kept original filtered, answer "[]" = .success kept original filtered → original = 0 := by
  intro before answer
  have hbefore : memberStart? "records" before.toList = some [] := by decide +kernel
  have ha : value 126 "[null,[true]]".toList = .ok (.array [.null, .array [.bool true]], []) := by
    have htext : "[null,[true]]".toList =
        ['[', 'n', 'u', 'l', 'l', ',', '[', 't', 'r', 'u', 'e', ']', ']'] := by
      simp
    rw [htext]
    rfl
  have hb : value 126 "[]".toList = .ok (.array [], []) := by
    have htext : "[]".toList = ['[', ']'] := by simp
    rw [htext]
    rfl
  have hsuccess : (answer "[]").isSuccess = true := by decide +kernel
  exact ⟨hbefore, ha, hb, hsuccess, handleText_otherRecords before _ _ "\x7d" _ _ hbefore ha hb⟩

/-- In the text of an object whose first `records` is an array, every other array may stand
in its place. -/
theorem handleText_isSuccess_of_object (text : String) (members : List (String × Json))
    (as : List Json) (hobject : Json.ofText text = .ok (.object members))
    (hrecords : members.lookup "records" = some (.array as)) :
    ∃ before source after, text = before ++ source ++ after ∧
      ∀ other bs, value 126 other.toList = .ok (.array bs, []) →
        (handleText text).isSuccess = (handleText (before ++ other ++ after)).isSuccess ∧
          ∀ kept original filtered,
            handleText (before ++ other ++ after) = .success kept original filtered →
              original = bs.length := by
  obtain ⟨before, source, after, rfl, hbefore, hsource⟩ :=
    exists_memberStart text members "records" _ hobject hrecords
  refine ⟨before, source, after, rfl, fun other bs hother => ⟨Bool.eq_iff_iff.mpr ⟨?_, ?_⟩, ?_⟩⟩
  · exact handleText_isSuccess_of_other before source other after as bs hbefore hsource hother
  · exact handleText_isSuccess_of_other before other source after bs as hbefore hother hsource
  · exact handleText_originalCount before other after bs hbefore hother

end Screening
