import Screening.Predicate.Compile
import Screening.Predicate.Encoding
import Screening.Proofs.Depth
import Screening.Proofs.NormalValue
import Screening.Proofs.Tagged

/-!
# Predicates that are read again

The predicate of a rule is the predicate that is read from its text, if each of
its numbers is found again there. A threshold that is infinite is written as
null and is no number then, and some doubles are read as a neighbour.
-/

set_option autoImplicit false

namespace Screening

namespace Value

mutual

theorem ofJson_toJson : ∀ v : Value, ofJson? v.toJson = some v
  | .null | .bool _ | .number _ | .text _ => rfl
  | .list items => by rw [toJson, ofJson?, itemsOfJson_itemsToJson items, Option.map_some]

theorem itemsOfJson_itemsToJson :
    ∀ items : List Value, itemsOfJson? (itemsToJson items) = some items
  | [] => rfl
  | v :: rest => by
    rw [itemsToJson, itemsOfJson?, ofJson_toJson v, itemsOfJson_itemsToJson rest]
    rfl

end

theorem decode_toJson (type : String) (v : Value) : decode type v.toJson = .ok v := by
  rw [decode, ofJson_toJson]

theorem itemsToJson_eq_map (items : List Value) : itemsToJson items = items.map toJson := by
  induction items with
  | nil => rfl
  | cons v items ih => rw [itemsToJson, ih, List.map_cons]

theorem depth_normalizeText (s : String) : (normalizeText s).toJson.depth = 0 := by
  rcases normalizeText_cases s with h | ⟨x, -, h⟩ <;> rw [h] <;> rfl

mutual

theorem depth_normalize : ∀ v : Value, (normalize v).toJson.depth = v.toJson.depth
  | .null | .bool _ | .number _ => rfl
  | .text s => depth_normalizeText s
  | .list items => by
    simp only [normalize, toJson, Json.depth, depth_normalizeItems items]

theorem depth_normalizeItems : ∀ items : List Value,
    Json.depthOfItems (itemsToJson (normalizeItems items)) = Json.depthOfItems (itemsToJson items)
  | [] => rfl
  | v :: rest => by
    simp only [normalizeItems, itemsToJson, Json.depthOfItems, depth_normalize v,
      depth_normalizeItems rest]

end

end Value

theorem symbolSet_symbolSet (symbols : List String) :
    symbolSet (symbolSet symbols) = symbolSet symbols := by
  have hunits : ∀ es : List (String × Unit), (es.map (·.1)).map (fun s => (s, ())) = es := by
    intro es
    rw [List.map_map]
    exact List.map_id' es
  rw [symbolSet, symbolSet, hunits, Keyed.ofList_eq_self _ (Keyed.ascending_ofList _)]

namespace Predicate

def Canonical : Predicate → Prop
  | membership _ members => symbolSet members = members
  | _ => True

theorem lookup_kinds (k : Kind) : kinds.lookup k.word = some k := by
  cases k <;> rfl

theorem fields_ne_kind (p : Predicate) : ∀ m ∈ p.fields, m.1 ≠ "kind" := by
  cases p <;> simp [fields]

theorem asBound_boundToJson (b : Option Float) : asBound (boundToJson b) = .ok b := by
  cases b <;> rfl

theorem asValues_valuesToJson (values : List Value) :
    Json.asList asValue (valuesToJson values) = .ok values :=
  Json.asList_written asValue Value.toJson values fun v _ => Value.decode_toJson _ v

theorem asSymbols_strings (members : List String) (h : symbolSet members = members) :
    asSymbols (.strings members) = .ok members := by
  have hlist := Json.asList_written Json.asText .string members fun s _ => rfl
  rw [asSymbols, Json.strings, hlist]
  exact congrArg Except.ok h

/-- The fields of a predicate, as they are written, come to that predicate. -/
theorem ofFields_fields (p : Predicate) (h : p.Canonical) :
    ofFields p.kind (.object p.fields) = .ok p := by
  have hvalue (v : Value) : asValue v.toJson = .ok v := Value.decode_toJson _ v
  cases p with
  | always => rfl
  | never => rfl
  | membership symbolField members =>
    have hmembers := asSymbols_strings members h
    simp [ofFields, kind, fields, Json.foldMembers, member, Kind.fieldNames, Json.decodeOnce,
      Json.asText, hmembers, Draft.complete, Json.present, bind, Except.bind, pure, Except.pure]
  | _ =>
    -- each field is decoded in its turn, and then none is missing
    simp [ofFields, kind, fields, Json.foldMembers, member, Kind.fieldNames, Json.decodeOnce,
      Json.asText, hvalue, asValues_valuesToJson, asBound_boundToJson, Json.asFloat, Json.float,
      Number.toFloat, Draft.complete, Json.present, bind, Except.bind, pure, Except.pure]

/-- A predicate whose numbers are found again is read from its text. -/
theorem run_compact_of_readsBack (p : Predicate) (hdepth : p.toJson.depth ≤ Json.levels)
    (hnumbers : p.toJson.ReadsBack) (hcanonical : p.Canonical) :
    (reader Json.levels).run p.toJson.compact = .ok p := by
  have hlevels : Json.depthOfMembers (("kind", .string p.kind.word) :: p.fields) ≤ 126 :=
    Nat.le_of_succ_le_succ hdepth
  have hmembers := Json.Layout.compact.isSource_members _ 0 126 hlevels hnumbers
  have htext : p.toJson.compact.toList = Json.Layout.compact.chars 0 p.toJson := by
    simp [Json.compact, Json.Layout.chars_compact]
  exact Json.run_tagged_written .compact 0 126 "kind" kinds p.kind.word p.kind
    (lookup_kinds p.kind) p.fields p.fields_ne_kind
    (fun m hm => hmembers m (List.mem_cons_of_mem _ hm)) "internally tagged enum Predicate"
    ofFields p (ofFields_fields p hcanonical) _ htext

end Predicate

end Screening
