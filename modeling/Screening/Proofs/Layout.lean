import Screening.Proofs.Salvage
import Screening.Proofs.Spelling

/-!
# Laid out values

The two layouts of a value differ in white space only. Whatever the white space
is, a value is read again from its text if it is not nested too deep and each
of its numbers is read again from its own.
-/

set_option autoImplicit false

namespace Screening.Json

mutual

def depth : Json → ℕ
  | array items => depthOfItems items + 1
  | object members => depthOfMembers members + 1
  | _ => 0

def depthOfItems : List Json → ℕ
  | [] => 0
  | j :: rest => max (depth j) (depthOfItems rest)

def depthOfMembers : List (String × Json) → ℕ
  | [] => 0
  | (_, j) :: rest => max (depth j) (depthOfMembers rest)

end

mutual

def numbers : Json → List Number
  | number n => [n]
  | array items => numbersOfItems items
  | object members => numbersOfMembers members
  | _ => []

def numbersOfItems : List Json → List Number
  | [] => []
  | j :: rest => numbers j ++ numbersOfItems rest

def numbersOfMembers : List (String × Json) → List Number
  | [] => []
  | (_, j) :: rest => numbers j ++ numbersOfMembers rest

end

theorem numbersOfItems_eq_flatMap (items : List Json) :
    numbersOfItems items = items.flatMap numbers := by
  induction items with
  | nil => rfl
  | cons j items ih => rw [numbersOfItems, ih, List.flatMap_cons]

theorem numbersOfMembers_eq_flatMap (members : List (String × Json)) :
    numbersOfMembers members = members.flatMap fun m => numbers m.2 := by
  induction members with
  | nil => rfl
  | cons m members ih => rw [numbersOfMembers, ih, List.flatMap_cons]

/-- Every number in a value is found again in its own text. -/
def ReadsBack (j : Json) : Prop := ∀ n ∈ j.numbers, n.ReadsBack

/-- The white space of a text: what stands before an item or member of a level, and
before the bracket that closes it, and what stands after a colon. -/
structure Layout where
  line : ℕ → List Char
  afterColon : List Char
  blank_line : ∀ level, (line level).all isSpace = true
  blank_afterColon : afterColon.all isSpace = true

namespace Layout

def compact : Layout := ⟨fun _ => [], [], fun _ => rfl, rfl⟩

def indented : Layout := ⟨newLine, [' '], fun level => by simp [newLine, isSpace], rfl⟩

@[simp] theorem compact_line (level : ℕ) : compact.line level = [] := rfl

@[simp] theorem compact_afterColon : compact.afterColon = [] := rfl

@[simp] theorem indented_line (level : ℕ) : indented.line level = newLine level := rfl

@[simp] theorem indented_afterColon : indented.afterColon = [' '] := rfl

mutual

def chars (l : Layout) (level : ℕ) : Json → List Char
  | .null => ['n', 'u', 'l', 'l']
  | .bool b => boolChars b
  | .number n => numberChars n
  | .string s => stringChars s
  | .array items => '[' :: l.arrayBody level items
  | .object members => '{' :: l.objectBody level members

def arrayBody (l : Layout) (level : ℕ) : List Json → List Char
  | [] => [']']
  | j :: rest => l.line (level + 1) ++ (l.chars (level + 1) j ++ l.items level rest)

def items (l : Layout) (level : ℕ) : List Json → List Char
  | [] => l.line level ++ [']']
  | j :: rest => ',' :: (l.line (level + 1) ++ (l.chars (level + 1) j ++ l.items level rest))

def objectBody (l : Layout) (level : ℕ) : List (String × Json) → List Char
  | [] => ['}']
  | (k, j) :: rest => l.line (level + 1) ++ (stringChars k ++ ':' ::
    (l.afterColon ++ (l.chars (level + 1) j ++ l.members level rest)))

def members (l : Layout) (level : ℕ) : List (String × Json) → List Char
  | [] => l.line level ++ ['}']
  | (k, j) :: rest => ',' :: (l.line (level + 1) ++ (stringChars k ++ ':' ::
    (l.afterColon ++ (l.chars (level + 1) j ++ l.members level rest))))

end

mutual

theorem chars_compact : ∀ (j : Json) (level : ℕ), compact.chars level j = compactChars j
  | .null, _ | .bool _, _ | .number _, _ | .string _, _ | .array [], _ | .object [], _ => rfl
  | .array (j :: rest), level => by
    simp [chars, arrayBody, compactChars, chars_compact j, items_compact rest]
  | .object ((k, j) :: rest), level => by
    simp [chars, objectBody, compactChars, chars_compact j, members_compact rest]

theorem items_compact : ∀ (js : List Json) (level : ℕ), compact.items level js = compactItems js
  | [], _ => rfl
  | j :: rest, level => by
    simp [items, compactItems, chars_compact j, items_compact rest]

theorem members_compact : ∀ (ms : List (String × Json)) (level : ℕ),
    compact.members level ms = compactMembers ms
  | [], _ => rfl
  | (k, j) :: rest, level => by
    simp [members, compactMembers, chars_compact j, members_compact rest]

end

mutual

theorem chars_indented : ∀ (j : Json) (level : ℕ), indented.chars level j = indentedChars level j
  | .null, _ | .bool _, _ | .number _, _ | .string _, _ | .array [], _ | .object [], _ => rfl
  | .array (j :: rest), level => by
    simp [chars, arrayBody, indentedChars, chars_indented j, items_indented rest]
  | .object ((k, j) :: rest), level => by
    simp [chars, objectBody, indentedChars, chars_indented j, members_indented rest]

theorem items_indented : ∀ (js : List Json) (level : ℕ),
    indented.items level js = indentedItems level js
  | [], _ => rfl
  | j :: rest, level => by
    simp [items, indentedItems, chars_indented j, items_indented rest]

theorem members_indented : ∀ (ms : List (String × Json)) (level : ℕ),
    indented.members level ms = indentedMembers level ms
  | [], _ => rfl
  | (k, j) :: rest, level => by
    simp [members, indentedMembers, chars_indented j, members_indented rest]

end

end Layout

theorem skipSpace_blank (blank s : List Char) (h : blank.all isSpace = true) :
    skipSpace (blank ++ s) = skipSpace s :=
  List.dropWhile_append_of_pos (List.all_eq_true.mp h)

theorem skipSpace_skipSpace (s : List Char) : skipSpace (skipSpace s) = skipSpace s := by
  cases h : skipSpace s with
  | nil => rfl
  | cons c t =>
    obtain ⟨before, -, hagain⟩ := skipSpace_cons s c t h
    have hc := List.head?_dropWhile_not isSpace s
    rw [← skipSpace, h] at hc
    rw [skipSpace, List.dropWhile_cons_of_neg (by simpa using hc)]

/-- Neither white space nor a bracket goes on a number. -/
theorem head_blank (blank : List Char) (c : Char) (u : List Char)
    (h : blank.all isSpace = true) (hc : goesOn c = false) :
    (blank ++ c :: u).head?.all (fun c => !goesOn c) = true := by
  cases blank with
  | nil => simpa using hc
  | cons d blank =>
    rw [List.all_cons, Bool.and_eq_true] at h
    have hd := h.1
    simp only [isSpace, Bool.or_eq_true, decide_eq_true_eq] at hd
    rcases hd with ((rfl | rfl) | rfl) | rfl <;> rfl

theorem valueAround_congr (inner : Option (Reader Json)) (s t : List Char)
    (h : skipSpace s = skipSpace t) : valueAround inner s = valueAround inner t := by
  simp only [valueAround, h]

theorem value_congr (k : ℕ) (s t : List Char) (h : skipSpace s = skipSpace t) :
    value k s = value k t := by
  cases k with
  | zero => exact valueAround_congr none s t h
  | succ k => exact valueAround_congr (some (value k)) s t h

theorem value_blank (k : ℕ) (blank s : List Char) (h : blank.all isSpace = true) :
    value k (blank ++ s) = value k s :=
  value_congr k _ _ (skipSpace_blank blank s h)

/-- A value does not start with a bracket that closes one. -/
theorem skipSpace_of_value (k : ℕ) (s : List Char) (j : Json) (rest : List Char)
    (h : value k s = .ok (j, rest)) : ∃ c t, skipSpace s = c :: t ∧ c ≠ ']' := by
  have haround : ∃ inner, valueAround inner s = .ok (j, rest) := by
    cases k with
    | zero => exact ⟨none, h⟩
    | succ k => exact ⟨some (value k), h⟩
  obtain ⟨inner, hvalue⟩ := haround
  cases hskip : skipSpace s with
  | nil => exact absurd hvalue (valueAround_nil inner s j rest hskip)
  | cons c t =>
    refine ⟨c, t, rfl, ?_⟩
    rintro rfl
    rw [valueAround_eq inner s ']' t hskip] at hvalue
    cases hvalue

theorem nextItem_first (k : ℕ) (s : List Char) (j : Json) (rest : List Char)
    (h : value k s = .ok (j, rest)) : nextItem true s = .ok (true, skipSpace s) := by
  obtain ⟨c, t, hskip, hc⟩ := skipSpace_of_value k s j rest h
  simp only [nextItem, hskip, if_neg hc, if_pos]

theorem nextItem_comma (k : ℕ) (s : List Char) (j : Json) (rest : List Char)
    (h : value k s = .ok (j, rest)) : nextItem false (',' :: s) = .ok (true, skipSpace s) := by
  obtain ⟨c, t, hskip, hc⟩ := skipSpace_of_value k s j rest h
  have hcomma : skipSpace (',' :: s) = ',' :: s := rfl
  simp only [nextItem, hcomma, hskip, if_neg hc]
  rfl

theorem nextItem_close (first : Bool) (blank u : List Char) (h : blank.all isSpace = true) :
    nextItem first (blank ++ ']' :: u) = .ok (false, ']' :: u) := by
  have hclose : skipSpace (blank ++ ']' :: u) = ']' :: u := skipSpace_blank blank _ h
  simp only [nextItem, hclose, if_pos]

variable {α σ : Type}

/-- One turn of a loop over items. -/
theorem itemsWithin_turn (item : Reader α) (tick : Char) (clock : List Char) (first : Bool)
    (s t u : List Char) (a : α) (as : List α) (rest : List Char)
    (hnext : nextItem first s = .ok (true, t)) (hitem : item t = .ok (a, u))
    (hrest : itemsWithin item clock false u = .ok (as, rest)) :
    itemsWithin item (tick :: clock) first s = .ok (a :: as, rest) :=
  (bind_eq_ok_iff _ _ _ _ _).mpr ⟨true, t, hnext, (bind_eq_ok_iff _ _ _ _ _).mpr
    ⟨a, u, hitem, (map_eq_ok_iff (a :: ·) _ _ _ _).mpr ⟨as, hrest, rfl⟩⟩⟩

theorem itemsWithin_stop (item : Reader α) (tick : Char) (clock : List Char) (first : Bool)
    (s rest : List Char) (hnext : nextItem first s = .ok (false, rest)) :
    itemsWithin item (tick :: clock) first s = .ok ([], rest) :=
  (bind_eq_ok_iff _ _ _ _ _).mpr ⟨false, rest, hnext, rfl⟩

namespace Layout

variable (l : Layout)

theorem head_items (level : ℕ) (js : List Json) (u : List Char) :
    (l.items level js ++ u).head?.all (fun c => !goesOn c) = true := by
  cases js with
  | nil =>
    rw [items, List.append_assoc]
    exact head_blank _ ']' u (l.blank_line level) rfl
  | cons j js => rfl

theorem head_members (level : ℕ) (ms : List (String × Json)) (u : List Char) :
    (l.members level ms ++ u).head?.all (fun c => !goesOn c) = true := by
  cases ms with
  | nil =>
    rw [members, List.append_assoc]
    exact head_blank _ '}' u (l.blank_line level) rfl
  | cons m ms => rfl

/-- Items that are read from their texts are read one after another. -/
theorem itemsWithin_items (level k : ℕ) (js : List Json)
    (hjs : ∀ j ∈ js, IsSource (value k) (l.chars (level + 1) j) j) (clock u : List Char)
    (hclock : (l.items level js).length ≤ clock.length) :
    itemsWithin (value k) clock false (l.items level js ++ u) = .ok (js, ']' :: u) := by
  induction js generalizing clock with
  | nil =>
    cases clock with
    | nil => simp [items] at hclock
    | cons tick clock =>
      apply itemsWithin_stop
      rw [items, List.append_assoc]
      exact nextItem_close false _ u (l.blank_line level)
  | cons j js ih =>
    cases clock with
    | nil => simp [items] at hclock
    | cons tick clock =>
      have hj := hjs j List.mem_cons_self _ (l.head_items level js u)
      have hrest := ih (fun i hi => hjs i (List.mem_cons_of_mem j hi)) clock (by
        simp only [items, List.length_cons, List.length_append] at hclock
        omega)
      rw [← value_blank k _ _ (l.blank_line (level + 1))] at hj
      have hnext := nextItem_comma k _ j _ hj
      rw [← value_congr k _ _ (skipSpace_skipSpace _)] at hj
      rw [items, List.cons_append, List.append_assoc, List.append_assoc]
      exact itemsWithin_turn _ _ _ _ _ _ _ _ _ _ hnext hj hrest

theorem items_arrayBody (level k : ℕ) (js : List Json)
    (hjs : ∀ j ∈ js, IsSource (value k) (l.chars (level + 1) j) j) (u : List Char) :
    Json.items (value k) true (l.arrayBody level js ++ u) = .ok (js, ']' :: u) := by
  cases js with
  | nil => exact itemsWithin_stop _ _ _ _ _ _ (nextItem_close true [] u rfl)
  | cons j js =>
    have hj := hjs j List.mem_cons_self _ (l.head_items level js u)
    rw [← value_blank k _ _ (l.blank_line (level + 1))] at hj
    have hnext := nextItem_first k _ j _ hj
    obtain ⟨used, hsplit, hused, -⟩ := local_value k _ j _ hj
    rw [← value_congr k _ _ (skipSpace_skipSpace _)] at hj
    rw [arrayBody, List.append_assoc, List.append_assoc, Json.items]
    generalize l.line (level + 1) ++ (l.chars (level + 1) j ++ (l.items level js ++ u)) = s
      at hnext hj hsplit ⊢
    cases s with
    | nil => cases hnext
    | cons tick clock =>
      have hlength := congrArg List.length hsplit
      have hrest := l.itemsWithin_items level k js (fun i hi => hjs i (List.mem_cons_of_mem j hi))
        clock u (by
          simp only [List.length_cons, List.length_append] at hlength
          omega)
      exact itemsWithin_turn _ _ _ _ _ _ _ _ _ _ hnext hj hrest

end Layout

theorem stringChars_append (s : String) (u : List Char) :
    stringChars s ++ u = '"' :: (s.toList.flatMap escapeChar ++ '"' :: u) := by
  simp [stringChars]

theorem nextKey_first (blank : List Char) (key : String) (s : List Char)
    (h : blank.all isSpace = true) :
    nextKey true (blank ++ (stringChars key ++ s)) = .ok (some key, s) := by
  have hskip := skipSpace_blank blank (stringChars key ++ s) h
  rw [stringChars_append] at hskip ⊢
  have hkey := (map_eq_ok_iff some stringBody _ _ s).mpr ⟨key, stringBody_written key s, rfl⟩
  unfold nextKey
  rw [hskip]
  exact hkey

theorem nextKey_comma (blank : List Char) (key : String) (s : List Char)
    (h : blank.all isSpace = true) :
    nextKey false (',' :: (blank ++ (stringChars key ++ s))) = .ok (some key, s) := by
  have hskip := skipSpace_blank blank (stringChars key ++ s) h
  have hcomma (t : List Char) : skipSpace (',' :: t) = ',' :: t := rfl
  rw [stringChars_append] at hskip ⊢
  have hkey := (map_eq_ok_iff some stringBody _ _ s).mpr ⟨key, stringBody_written key s, rfl⟩
  unfold nextKey
  rw [hcomma]
  simp only
  rw [hskip]
  exact hkey

theorem nextKey_close (first : Bool) (blank u : List Char) (h : blank.all isSpace = true) :
    nextKey first (blank ++ '}' :: u) = .ok (none, '}' :: u) := by
  have hclose : skipSpace (blank ++ '}' :: u) = '}' :: u := skipSpace_blank blank _ h
  simp only [nextKey, hclose, if_pos]

theorem once_colon (name : String) (item : Reader α) (s : List Char) (a : α) (rest : List Char)
    (h : item s = .ok (a, rest)) : once name none item (':' :: s) = .ok (some a, rest) :=
  (bind_eq_ok_iff _ _ _ _ _).mpr ⟨(), s, (colon_eq_ok_iff _ _ ()).mpr rfl,
    (map_eq_ok_iff some item s _ rest).mpr ⟨a, h, rfl⟩⟩

def Layout.Steps (l : Layout) (level : ℕ) (member : String → σ → Reader σ)
    (next : String → Json → σ → Option σ) (ms : List (String × Json)) : Prop :=
  ∀ m ∈ ms, ∀ state state', next m.1 m.2 state = some state' →
    ∀ u, u.head?.all (fun c => !goesOn c) = true →
      member m.1 state (':' :: (l.afterColon ++ (l.chars (level + 1) m.2 ++ u))) = .ok (state', u)

namespace Layout

variable (l : Layout)

theorem membersWithin_members (level : ℕ) (member : String → σ → Reader σ)
    (next : String → Json → σ → Option σ) (ms : List (String × Json))
    (hsteps : l.Steps level member next ms) (state final : σ)
    (hfinal : ms.foldlM (fun state m => next m.1 m.2 state) state = some final)
    (clock u : List Char) (hclock : (l.members level ms).length ≤ clock.length) :
    membersWithin member clock false state (l.members level ms ++ u) = .ok (final, '}' :: u) := by
  induction ms generalizing clock state with
  | nil =>
    cases hfinal
    cases clock with
    | nil => simp [members] at hclock
    | cons tick clock =>
      apply membersWithin_none
      rw [members, List.append_assoc]
      exact nextKey_close false _ u (l.blank_line level)
  | cons m ms ih =>
    cases clock with
    | nil => simp [members] at hclock
    | cons tick clock =>
      rw [List.foldlM_cons] at hfinal
      obtain ⟨state', hstate, hfinal⟩ := Option.bind_eq_some_iff.mp hfinal
      have hmember := hsteps m List.mem_cons_self state state' hstate _ (l.head_members level ms u)
      have hrest := ih (fun i hi => hsteps i (List.mem_cons_of_mem m hi)) state' hfinal clock (by
        simp only [members, List.length_cons, List.length_append] at hclock
        omega)
      have hkey := nextKey_comma (l.line (level + 1)) m.1
        (':' :: (l.afterColon ++ (l.chars (level + 1) m.2 ++ (l.members level ms ++ u))))
        (l.blank_line (level + 1))
      simp only [members, List.cons_append, List.append_assoc]
      rw [membersWithin_some member tick clock false state _ _ _ _ _ hkey hmember]
      exact hrest

theorem members_objectBody (level : ℕ) (member : String → σ → Reader σ)
    (next : String → Json → σ → Option σ) (ms : List (String × Json))
    (hsteps : l.Steps level member next ms) (state final : σ)
    (hfinal : ms.foldlM (fun state m => next m.1 m.2 state) state = some final) (u : List Char) :
    Json.members member state (l.objectBody level ms ++ u) = .ok (final, '}' :: u) := by
  cases ms with
  | nil =>
    cases hfinal
    exact membersWithin_none _ _ _ _ _ _ _ (nextKey_close true [] u rfl)
  | cons m ms =>
    rw [List.foldlM_cons] at hfinal
    obtain ⟨state', hstate, hfinal⟩ := Option.bind_eq_some_iff.mp hfinal
    have hmember := hsteps m List.mem_cons_self state state' hstate _ (l.head_members level ms u)
    have hkey := nextKey_first (l.line (level + 1)) m.1
      (':' :: (l.afterColon ++ (l.chars (level + 1) m.2 ++ (l.members level ms ++ u))))
      (l.blank_line (level + 1))
    simp only [objectBody, List.cons_append, List.append_assoc, Json.members]
    generalize hs : l.line (level + 1) ++ (stringChars m.1 ++ ':' ::
      (l.afterColon ++ (l.chars (level + 1) m.2 ++ (l.members level ms ++ u)))) = s at hkey ⊢
    cases s with
    | nil => cases hkey
    | cons tick clock =>
      have hlength := congrArg List.length hs
      simp only [List.length_cons, List.length_append] at hlength
      rw [membersWithin_some member tick clock true state _ _ _ _ _ hkey hmember]
      exact l.membersWithin_members level member next ms
        (fun i hi => hsteps i (List.mem_cons_of_mem m hi)) state' final hfinal clock u (by omega)

theorem steps_memberAsValue (level k : ℕ) (ms : List (String × Json))
    (hms : ∀ m ∈ ms, IsSource (value k) (l.chars (level + 1) m.2) m.2) :
    l.Steps level (memberAsValue (value k)) (fun key j read => some ((key, j) :: read)) ms := by
  intro m hm read read' hread u hu
  cases hread
  have hvalue := hms m hm u hu
  rw [← value_blank k _ _ l.blank_afterColon] at hvalue
  exact (bind_eq_ok_iff _ _ _ _ _).mpr ⟨(), _, (colon_eq_ok_iff _ _ ()).mpr rfl,
    (map_eq_ok_iff (fun j => (m.1, j) :: read) _ _ _ _).mpr ⟨m.2, hvalue, rfl⟩⟩

theorem foldlM_memberAsValue (ms read : List (String × Json)) :
    ms.foldlM (fun read m => some ((m.1, m.2) :: read)) read = some (ms.reverse ++ read) := by
  induction ms generalizing read with
  | nil => rfl
  | cons m ms ih =>
    rw [List.foldlM_cons, Option.bind_eq_bind, Option.bind_some, ih]
    simp

theorem isSource_array (level k : ℕ) (js : List Json)
    (hjs : ∀ j ∈ js, IsSource (value k) (l.chars (level + 1) j) j) :
    IsSource (value (k + 1)) (l.chars level (.array js)) (.array js) := by
  intro u _
  have hitems := l.items_arrayBody level k js hjs u
  have harray : arrayOf (value k) (l.arrayBody level js ++ u) = .ok (.array js, u) :=
    (arrayOf_eq_ok_iff _ _ _ u).mpr
      ⟨js, (enclosed_eq_ok_iff _ _ _ _ _ _).mpr ⟨_, hitems, rfl⟩, rfl⟩
  exact harray

theorem isSource_object (level k : ℕ) (ms : List (String × Json))
    (hms : ∀ m ∈ ms, IsSource (value k) (l.chars (level + 1) m.2) m.2) :
    IsSource (value (k + 1)) (l.chars level (.object ms)) (.object ms) := by
  intro u _
  have hmembers := l.members_objectBody level _ _ ms (l.steps_memberAsValue level k ms hms) []
    (ms.reverse ++ []) (foldlM_memberAsValue ms []) u
  have hobject : objectOf (value k) (l.objectBody level ms ++ u) = .ok (.object ms, u) :=
    (objectOf_eq_ok_iff _ _ _ u).mpr
      ⟨_, (enclosed_eq_ok_iff _ _ _ _ _ _).mpr ⟨_, hmembers, rfl⟩, by simp⟩
  exact hobject

mutual

/-- A value is read again from its text in any layout. -/
theorem isSource_chars : ∀ (j : Json) (level k : ℕ), j.depth ≤ k → j.ReadsBack →
    IsSource (value k) (l.chars level j) j
  | .null, _, k, _, _ => by
    intro u _
    cases k <;> rfl
  | .bool b, _, k, _, _ => by
    intro u _
    cases k <;> cases b <;> rfl
  | .number n, _, k, _, hn => isSource_number k n (hn n (by simp [numbers]))
  | .string s, _, k, _, _ => by
    intro u _
    have hstring := (map_eq_ok_iff string stringBody _ _ u).mpr ⟨s, stringBody_written s u, rfl⟩
    rw [chars, stringChars_append]
    cases k <;> exact hstring
  | .array js, level, 0, hdepth, _ => by simp [depth] at hdepth
  | .array js, level, k + 1, hdepth, hn =>
    l.isSource_array level k js (isSource_items js level k (by simpa [depth] using hdepth)
      (by simpa [ReadsBack, numbers] using hn))
  | .object ms, level, 0, hdepth, _ => by simp [depth] at hdepth
  | .object ms, level, k + 1, hdepth, hn =>
    l.isSource_object level k ms (isSource_members ms level k (by simpa [depth] using hdepth)
      (by simpa [ReadsBack, numbers] using hn))

theorem isSource_items : ∀ (js : List Json) (level k : ℕ), depthOfItems js ≤ k →
    (∀ n ∈ numbersOfItems js, n.ReadsBack) →
    ∀ j ∈ js, IsSource (value k) (l.chars (level + 1) j) j
  | [], _, _, _, _ => by simp
  | j :: js, level, k, hdepth, hn => by
    simp only [depthOfItems, Nat.max_le] at hdepth
    simp only [numbersOfItems, List.mem_append] at hn
    have hj := isSource_chars j (level + 1) k hdepth.1 fun n h => hn n (.inl h)
    have hjs := isSource_items js level k hdepth.2 fun n h => hn n (.inr h)
    exact List.forall_mem_cons.mpr ⟨hj, hjs⟩

theorem isSource_members : ∀ (ms : List (String × Json)) (level k : ℕ), depthOfMembers ms ≤ k →
    (∀ n ∈ numbersOfMembers ms, n.ReadsBack) →
    ∀ m ∈ ms, IsSource (value k) (l.chars (level + 1) m.2) m.2
  | [], _, _, _, _ => by simp
  | (key, j) :: ms, level, k, hdepth, hn => by
    simp only [depthOfMembers, Nat.max_le] at hdepth
    simp only [numbersOfMembers, List.mem_append] at hn
    have hj := isSource_chars j (level + 1) k hdepth.1 fun n h => hn n (.inl h)
    have hms := isSource_members ms level k hdepth.2 fun n h => hn n (.inr h)
    exact List.forall_mem_cons.mpr ⟨hj, hms⟩

end

end Layout

end Screening.Json
