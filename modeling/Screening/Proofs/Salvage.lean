import Screening.Proofs.Sources
import Screening.Service

/-!
# Records of a malformed request

A request that cannot be read is answered with the records it lists. They are
those that would be read if the list stood in a request by itself, although
one reader expects records there and the other any value.
-/

set_option autoImplicit false

namespace Screening

variable {α β : Type}

namespace Json

theorem itemsWithin_map (item : Reader α) (f : α → β) (clock : List Char) (first : Bool)
    (s : List Char) (as : List α) (rest : List Char)
    (h : itemsWithin item clock first s = .ok (as, rest)) :
    itemsWithin (f <$> item) clock first s = .ok (as.map f, rest) := by
  induction clock generalizing first s as with
  | nil => cases h
  | cons tick clock ih =>
    obtain ⟨more, t, hnext, h⟩ := (bind_eq_ok_iff _ _ s as rest).mp h
    cases more with
    | false =>
      cases h
      exact (bind_eq_ok_iff _ _ _ _ _).mpr ⟨false, rest, hnext, rfl⟩
    | true =>
      obtain ⟨a, u, ha, h⟩ := (bind_eq_ok_iff item _ t as rest).mp h
      obtain ⟨bs, hbs, rfl⟩ :=
        (map_eq_ok_iff (a :: ·) (itemsWithin item clock false) u as rest).mp h
      have hitem := (map_eq_ok_iff f item t (f a) u).mpr ⟨a, ha, rfl⟩
      exact (bind_eq_ok_iff _ _ _ _ _).mpr ⟨true, t, hnext,
        (bind_eq_ok_iff _ _ _ _ _).mpr ⟨f a, u, hitem,
          (map_eq_ok_iff (f a :: ·) _ _ _ _).mpr ⟨bs.map f, ih false u bs hbs, rfl⟩⟩⟩

theorem inList_items_map (item : Reader α) (f : α → β) (s : List Char) (as : List α)
    (rest : List Char) (h : inList (items item true) s = .ok (as, rest)) :
    inList (items (f <$> item) true) s = .ok (as.map f, rest) := by
  obtain ⟨t, hitems, hclose⟩ := (enclosed_eq_ok_iff _ _ _ s rest as).mp h
  exact (enclosed_eq_ok_iff _ _ _ s rest _).mpr
    ⟨t, itemsWithin_map item f s true s as t hitems, hclose⟩

theorem membersWithin_some (member : String → α → Reader α) (tick : Char)
    (clock : List Char) (first : Bool) (state : α) (s : List Char) (key : String) (t : List Char)
    (state' : α) (u : List Char) (hkey : nextKey first s = .ok (some key, t))
    (hmember : member key state t = .ok (state', u)) :
    membersWithin member (tick :: clock) first state s =
      membersWithin member clock false state' u := by
  rw [membersWithin, bind_run, hkey]
  simp only
  rw [bind_run, hmember]

theorem membersWithin_none (member : String → α → Reader α) (tick : Char)
    (clock : List Char) (first : Bool) (state : α) (s t : List Char)
    (hkey : nextKey first s = .ok (none, t)) :
    membersWithin member (tick :: clock) first state s = .ok (state, t) := by
  rw [membersWithin, bind_run, hkey]
  rfl

end Json

open Json

/-- Where any value reads an array, a list of records reads its items as records. -/
theorem readRecords_of_value (levels : ℕ) (s : List Char) (as : List Json) (rest : List Char)
    (h : value levels s = .ok (.array as, rest)) :
    Request.readRecords levels s = .ok (as.map Record.ofJson, rest) := by
  obtain ⟨inner, t, rfl, hskip, hitems⟩ := value_array levels s as rest h
  have hlist : Json.list Record.reader (inner + 1) ('[' :: t) =
      .ok (as.map Record.ofJson, rest) :=
    inList_items_map (value inner) Record.ofJson t as rest hitems
  apply (map_eq_ok_iff _ _ s _ rest).mpr
  refine ⟨some (as.map Record.ofJson), ?_, rfl⟩
  simp only [Json.optional, hskip]
  exact (map_eq_ok_iff some _ _ _ rest).mpr ⟨_, hlist, rfl⟩

theorem member_records (levels : ℕ) (d : Request.Draft) (s t : List Char) (records : List Record)
    (rest : List Char) (hd : d.records = none) (hskip : skipSpace s = ':' :: t)
    (hrecords : Request.readRecords levels t = .ok (records, rest)) :
    Request.member levels "records" d s = .ok ({ d with records := some records }, rest) := by
  have honce : Json.once "records" d.records (Request.readRecords levels) s =
      .ok (some records, rest) := by
    rw [hd]
    exact (bind_eq_ok_iff _ _ _ _ _).mpr ⟨(), t, (colon_eq_ok_iff s t ()).mpr hskip,
      (map_eq_ok_iff some _ _ _ _).mpr ⟨records, hrecords, rfl⟩⟩
  exact (map_eq_ok_iff (fun found => { d with records := found }) _ s _ rest).mpr
    ⟨some records, honce, rfl⟩

def recordsAlone (source : String) : String := "\x7b\"records\":" ++ source ++ "\x7d"

def recordsKey : List Char := ['"', 'r', 'e', 'c', 'o', 'r', 'd', 's', '"', ':']

theorem toList_recordsAlone (source : List Char) :
    (recordsAlone (String.ofList source)).toList = '{' :: (recordsKey ++ (source ++ ['}'])) := by
  simp [recordsAlone, recordsKey]

theorem nextKey_recordsKey (rest : List Char) :
    nextKey true (recordsKey ++ rest) = .ok (some "records", ':' :: rest) := by
  rfl

theorem members_recordsAlone (source : List Char) (as : List Json)
    (h : IsSource (value 126) source (.array as)) :
    members (Request.member 126) ⟨none, none, none, none⟩ (recordsKey ++ (source ++ ['}'])) =
      .ok (⟨some (as.map Record.ofJson), none, none, none⟩, ['}']) := by
  have hvalue : value 126 (source ++ ['}']) = .ok (.array as, ['}']) := h ['}'] rfl
  have hrecords := readRecords_of_value 126 _ as ['}'] hvalue
  have hmember := member_records 126 ⟨none, none, none, none⟩ (':' :: (source ++ ['}']))
    (source ++ ['}']) _ _ rfl rfl hrecords
  have hkey := nextKey_recordsKey (source ++ ['}'])
  have hend : nextKey false ['}'] = .ok (none, ['}']) := rfl
  rw [recordsKey, List.cons_append, List.cons_append] at hkey ⊢
  rw [members, membersWithin_some _ _ _ _ _ _ _ _ _ _ hkey hmember]
  exact membersWithin_none _ _ _ _ _ _ _ hend

theorem ofText_recordsAlone (source : List Char) (as : List Json)
    (h : IsSource (value 126) source (.array as)) :
    Request.ofText (recordsAlone (String.ofList source)) =
      .ok ⟨as.map Record.ofJson, [], none, none⟩ := by
  have hmembers := members_recordsAlone source as h
  have hobject : inObject (Request.fromObject 126) (recordsKey ++ (source ++ ['}'])) =
      .ok (⟨as.map Record.ofJson, [], none, none⟩, []) := by
    apply (enclosed_eq_ok_iff _ _ _ _ _ _).mpr
    refine ⟨['}'], ?_, rfl⟩
    exact (map_eq_ok_iff Request.Draft.complete _ _ _ _).mpr ⟨_, hmembers, rfl⟩
  rw [Request.ofText, run_eq_ok_iff, toList_recordsAlone]
  exact ⟨[], hobject, rfl⟩

/-- A text that is no request, but an object that lists records, is answered with
exactly these records, both by the service and at the command line. They are the
records of a request that consists of their text alone. -/
theorem handleText_malformed (text : String) (members : List (String × Json))
    (items : List Json) (cause : ReadError) (hobject : Json.ofText text = .ok (.object members))
    (hlast : lastMember? members "records" = some (.array items))
    (hfail : Request.ofText text = .error cause) :
    let answer := Response.error (items.map Record.ofJson) (Failure.malformed cause).text
    handleText text = answer ∧
      filterDocument text = ⟨answer, []⟩ ∧
      ∃ source, lastSource? text "records" = some source ∧
        Request.ofText (recordsAlone source) = .ok ⟨items.map Record.ofJson, [], none, none⟩ := by
  intro answer
  have hsalvage : salvage text = items.map Record.ofJson := by
    rw [salvage, hobject]
    simp only [hlast]
  have hparse : parseRequest text = .error answer := by
    rw [parseRequest, hfail]
    simp only [hsalvage]
    rfl
  obtain ⟨source, hsource, his⟩ := lastSource_of_member text members "records" _ hobject hlast
  refine ⟨?_, ?_, String.ofList source, hsource, ofText_recordsAlone source items his⟩
  · rw [handleText, hparse]
  · rw [filterDocument, hparse]

/-- An object whose members are out of order, a null and an array behind rules that are none. -/
theorem handleText_malformed_rules :
    let text := "\x7b\"rules\":true,\"records\":[\x7b\"b\":7,\"a\":\"x\"\x7d, null,[true]]\x7d"
    let items := [Json.object [("b", .natural 7), ("a", .string "x")], .null, .array [.bool true]]
    let members := [("rules", Json.bool true), ("records", .array items)]
    ∃ cause, Json.ofText text = .ok (.object members) ∧
      lastMember? members "records" = some (.array items) ∧
      Request.ofText text = .error cause ∧
      handleText text = .error (items.map Record.ofJson) (Failure.malformed cause).text ∧
      (handleText text).records.map Record.text =
        ["\x7b\"a\":\"x\",\"b\":7\x7d", "null", "[true]"] := by
  intro text items members
  have htext : text.toList = ['{', '"', 'r', 'u', 'l', 'e', 's', '"', ':', 't', 'r', 'u', 'e',
      ',', '"', 'r', 'e', 'c', 'o', 'r', 'd', 's', '"', ':', '[', '{', '"', 'b', '"', ':', '7',
      ',', '"', 'a', '"', ':', '"', 'x', '"', '}', ',', ' ', 'n', 'u', 'l', 'l', ',', '[', 't',
      'r', 'u', 'e', ']', ']', '}'] := by
    simp [text]
  have hobject : Json.ofText text = .ok (.object members) := by
    rw [Json.ofText, run_eq_ok_iff, htext]
    exact ⟨[], rfl, rfl⟩
  have hlast : lastMember? members "records" = some (.array items) := rfl
  have htexts : (items.map Record.ofJson).map Record.text =
      ["\x7b\"a\":\"x\",\"b\":7\x7d", "null", "[true]"] := by decide +kernel
  cases hrequest : Request.ofText text with
  | ok request =>
    obtain ⟨rest, hread, -⟩ := (run_eq_ok_iff _ _ _).mp hrequest
    rw [htext] at hread
    cases hread
  | error cause =>
    have hanswer := (handleText_malformed text members items cause hobject hlast hrequest).1
    refine ⟨cause, hobject, hlast, rfl, hanswer, ?_⟩
    rw [hanswer]
    exact htexts

theorem salvage_array (text : String) (t : List Char)
    (harray : skipSpace text.toList = '[' :: t) : salvage text = [] := by
  unfold salvage
  split
  · next members hobject =>
    obtain ⟨rest, hread, -⟩ := (run_eq_ok_iff _ text _).mp hobject
    obtain ⟨-, u, -, hskip, -⟩ := value_object levels text.toList members rest hread
    rw [harray] at hskip
    cases hskip
  · rfl

/-- A request may stand in an array as well. But if an array cannot be read as a request,
it is answered without any records, although the first of its fields may list some. -/
theorem handleText_malformed_array (text : String) (t : List Char) (cause : ReadError)
    (harray : skipSpace text.toList = '[' :: t) (hfail : Request.ofText text = .error cause) :
    let answer := Response.error [] (Failure.malformed cause).text
    handleText text = answer ∧ filterDocument text = ⟨answer, []⟩ := by
  intro answer
  have hparse : parseRequest text = .error answer := by
    rw [parseRequest, hfail]
    simp only [salvage_array text t harray]
    rfl
  rw [handleText, filterDocument, hparse]
  exact ⟨rfl, rfl⟩

theorem handleText_malformed_array_rules :
    let text := "[[1],true,null,null]"
    ∃ cause, Request.ofText text = .error cause ∧
      handleText text = .error [] (Failure.malformed cause).text := by
  intro text
  have hskip : skipSpace text.toList = '[' :: "[1],true,null,null]".toList := by decide
  have hnone : (Request.ofText text).toOption.isNone := by decide +kernel
  cases hrequest : Request.ofText text with
  | ok request =>
    rw [hrequest] at hnone
    cases hnone
  | error cause => exact ⟨cause, rfl, (handleText_malformed_array text _ cause hskip hrequest).1⟩

/-- One request in both forms, with rules that are none: its record is in the answer to the
object, but not in the answer to the array. -/
theorem handleText_malformed_forms :
    let object :=
      "\x7b\"records\":[1],\"rules\":true,\"membershipTable\":null,\"options\":null\x7d"
    let array := "[[1],true,null,null]"
    (handleText object).isSuccess = false ∧ (handleText object).records.map Record.text = ["1"] ∧
      (handleText array).isSuccess = false ∧ (handleText array).records.map Record.text = [] := by
  decide +kernel

end Screening
