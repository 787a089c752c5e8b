import Screening.Proofs.Extent

/-!
# Where the members of a request end

The reader of each member of a request takes a value up to its end, whatever type the
member has, and so does the reader that skips a member with an unknown key.
-/

set_option autoImplicit false

namespace Screening

open Json

variable {α σ : Type}

namespace Json

theorem moves_skipEscape : Moves .escaped 0 .quoted 0 skipEscape := by
  intro s done rest h n
  cases s with
  | nil => cases h
  | cons c s =>
    rw [valueEnd_escaped]
    simp only [skipEscape] at h
    split at h
    · exact Moves.bind moves_hexEscape (fun _ => moves_pure ()) s done rest h n
    split at h
    · cases h
      rfl
    · cases h

theorem moves_skipStringWithin (clock : List Char) :
    Moves .quoted 0 .plain 0 (skipStringWithin clock) := by
  induction clock with
  | nil => exact moves_failing fun _ _ _ h => nomatch h
  | cons tick clock ih =>
    intro s done rest h n
    cases s with
    | nil => cases h
    | cons c s =>
      simp only [skipStringWithin] at h
      split at h
      · next hquote =>
        cases h
        rw [hquote]
        rfl
      split at h
      · next hquote hescape =>
        rw [hescape, valueEnd_backslash]
        exact Moves.bind moves_skipEscape (fun _ => ih) s done rest h n
      split at h
      · cases h
      · next hquote hescape hcontrol =>
        rw [valueEnd_letter _ c s hquote hescape]
        exact ih s done rest h n

theorem moves_skipString : Moves .quoted 0 .plain 0 skipString :=
  fun s => moves_skipStringWithin s s

theorem balanced_skipDigits (fault : Reader Unit) (hfault : ∀ s a rest, fault s ≠ .ok (a, rest)) :
    Balanced 0 (skipDigits fault) := by
  intro s done rest h n
  unfold skipDigits at h
  split at h
  · cases h
    exact (valueEnd_digits n s).symm
  · exact absurd h (hfault s done rest)

theorem balanced_badDigit : Balanced 0 (skipDigits badDigit) :=
  balanced_skipDigits badDigit fun _ _ _ h => nomatch h

theorem balanced_skipExponent : Balanced 0 skipExponent := by
  intro s done rest h n
  unfold skipExponent at h
  split at h
  · exact balanced_badDigit.behind '+' rfl _ done rest h n
  · exact balanced_badDigit.behind '-' rfl _ done rest h n
  · exact balanced_badDigit s done rest h n

theorem balanced_skipExponentPart : Balanced 0 skipExponentPart := by
  intro s done rest h n
  unfold skipExponentPart at h
  split at h
  · next c t =>
    split at h
    · next hc =>
      exact balanced_skipExponent.behind c (isPlain_of_isExponentMark c hc) t done rest h n
    · cases h
      rfl
  · cases h
    rfl

theorem balanced_skipFraction : Balanced 0 skipFraction := by
  have hpoint : Balanced 0 (do skipDigits (faultAhead .badNumber); skipExponentPart) :=
    Moves.bind (balanced_skipDigits _ fun _ _ _ h => nomatch h) fun _ => balanced_skipExponentPart
  intro s done rest h n
  unfold skipFraction at h
  split at h
  · exact hpoint.behind '.' rfl _ done rest h n
  · exact balanced_skipExponentPart s done rest h n

theorem balanced_skipNumber : Balanced 0 skipNumber := by
  intro s done rest h n
  unfold skipNumber at h
  split at h
  · split at h
    · cases h
    · exact balanced_skipFraction.behind '0' rfl _ done rest h n
  · exact Moves.bind balanced_badDigit (fun _ => balanced_skipFraction) s done rest h n

/-- A bracket that opens adds a frame. -/
theorem valueEnd_skipStart (s : List Char) (start : Option Frame) (rest : List Char)
    (h : skipStart s = .ok (start, rest)) (n : ℕ) :
    valueEnd .plain n s = valueEnd .plain (n + start.toList.length) rest := by
  have hscalar {reader : Reader Unit} {mode : Mode} (hreader : Moves mode 0 .plain 0 reader)
      (t : List Char) (ht : (do reader; pure none : Reader (Option Frame)) t = .ok (start, rest)) :
      valueEnd mode n t = valueEnd .plain (n + start.toList.length) rest := by
    obtain ⟨done, u, hu, hpure⟩ := (bind_eq_ok_iff _ _ t start rest).mp ht
    cases hpure
    exact hreader t done rest hu n
  have hword (c : Char) (hc : isPlain c = true) (word : List Char) (hword : word.all isPlain = true)
      (t : List Char) (ht : keyword (none : Option Frame) word t = .ok (start, rest)) :
      valueEnd .plain n (c :: t) = valueEnd .plain (n + start.toList.length) rest := by
    cases keyword_value _ _ _ _ _ ht
    exact (balanced_keyword _ word hword).behind c hc t none rest ht n
  rw [← valueEnd_skipSpace]
  unfold skipStart at h
  split at h
  · cases h
  · next c t hskip =>
    rw [hskip]
    split at h
    · next hc => exact hword c (by rw [hc]; rfl) ['u', 'l', 'l'] rfl t h
    split at h
    · next hc => exact hword c (by rw [hc]; rfl) ['r', 'u', 'e'] rfl t h
    split at h
    · next hc => exact hword c (by rw [hc]; rfl) ['a', 'l', 's', 'e'] rfl t h
    split at h
    · next hc =>
      rw [hc, valueEnd_plain n '-' t rfl]
      exact hscalar balanced_skipNumber t h
    split at h
    · exact hscalar balanced_skipNumber (c :: t) h
    split at h
    · next hc =>
      rw [hc, valueEnd_quote]
      exact hscalar moves_skipString t h
    split at h
    · next hc =>
      cases h
      rw [hc, valueEnd_openList]
      rfl
    split at h
    · next hc =>
      cases h
      rw [hc, valueEnd_openObject]
      rfl
    · cases h

theorem balanced_skipKey (frame : Frame) : Balanced 0 (skipKey frame) := by
  cases frame with
  | list => exact moves_pure ()
  | map =>
    refine moves_spaced fun s done rest h n => ?_
    cases hskip : skipSpace s with
    | nil => simp [skipKey, hskip, faultAhead] at h
    | cons c t =>
      simp only [skipKey, hskip] at h
      split at h
      · next hc =>
        rw [hc, valueEnd_quote]
        exact Moves.bind moves_skipString (fun _ => balanced_colon) t done rest h n
      · cases h

/-- The way from the end of one value to the start of the next closes as many brackets as
there are frames fewer. -/
theorem valueEnd_skipBetween (frames : List Frame) (afterValue : Bool) (s : List Char)
    (next : Option (List Frame)) (rest : List Char)
    (h : skipBetween frames afterValue s = .ok (next, rest)) (n : ℕ) :
    valueEnd .plain (n + frames.length) s =
      valueEnd .plain (n + (next.getD []).length) rest := by
  induction frames generalizing afterValue s with
  | nil =>
    cases h
    rfl
  | cons frame outer ih =>
    have hinside (t : List Char) (ht : (do skipKey frame; pure (some (frame :: outer)) :
        Reader (Option (List Frame))) t = .ok (next, rest)) :
        valueEnd .plain (n + (frame :: outer).length) t =
          valueEnd .plain (n + (next.getD []).length) rest := by
      obtain ⟨done, u, hu, hpure⟩ := (bind_eq_ok_iff _ _ t next rest).mp ht
      cases hpure
      exact balanced_skipKey frame t done rest hu _
    rw [← valueEnd_skipSpace]
    unfold skipBetween at h
    split at h
    · cases h
    · next c t hskip =>
      rw [hskip]
      split at h
      · next hc =>
        rw [hc.1, List.length_cons, ← Nat.add_assoc, valueEnd_comma, Nat.add_assoc]
        exact hinside t h
      split at h
      · next hc =>
        rw [hc, List.length_cons, ← Nat.add_assoc]
        have hclose : valueEnd .plain (n + outer.length + 1) (frame.closing :: t) =
            valueEnd .plain (n + outer.length) t := by
          cases frame <;> rfl
        rw [hclose]
        exact ih true t h
      split at h
      · cases h
      · exact hinside (c :: t) h

theorem valueEnd_skipTurn (frames : List Frame) (s : List Char) (next : Option (List Frame))
    (rest : List Char) (h : skipTurn frames s = .ok (next, rest)) (n : ℕ) :
    valueEnd .plain (n + frames.length) s =
      valueEnd .plain (n + (next.getD []).length) rest := by
  obtain ⟨start, t, hstart, hnext⟩ := (bind_eq_ok_iff _ _ s next rest).mp h
  rw [valueEnd_skipStart s start t hstart]
  cases start with
  | none => exact valueEnd_skipBetween frames true t next rest hnext n
  | some frame => exact valueEnd_skipBetween (frame :: frames) false t next rest hnext n

theorem valueEnd_skipWithin (clock : List Char) (frames : List Frame) (s rest : List Char)
    (h : skipWithin clock frames s = .ok ((), rest)) (n : ℕ) :
    valueEnd .plain (n + frames.length) s = valueEnd .plain n rest := by
  induction clock generalizing frames s with
  | nil => cases h
  | cons tick clock ih =>
    rw [skipWithin_cons] at h
    obtain ⟨next, t, hturn, hrest⟩ := (bind_eq_ok_iff _ _ s () rest).mp h
    rw [valueEnd_skipTurn frames s next t hturn]
    cases next with
    | none =>
      cases hrest
      rfl
    | some frames' => exact ih frames' t hrest

theorem balanced_skip : Balanced 0 skip :=
  fun s _ rest h n => valueEnd_skipWithin s [] s rest h n

theorem balanced_quoted (expected : String) : Balanced 0 (quoted expected) := by
  refine moves_spaced fun s a rest h n => ?_
  unfold quoted at h
  split at h
  · next t hskip =>
    rw [hskip, valueEnd_quote]
    exact moves_stringBody t a rest h n
  · exact absurd h (refuse_ne_ok _ _ _ _)

theorem balanced_text : Balanced 0 text := balanced_quoted "a string"

theorem balanced_variantName : Balanced 0 variantName := balanced_quoted "variant identifier"

theorem balanced_unit : Balanced 0 unit := by
  refine moves_spaced fun s a rest h n => ?_
  unfold unit at h
  split at h
  · next t hskip =>
    rw [hskip]
    exact (balanced_keyword () ['u', 'l', 'l'] rfl).behind 'n' rfl t a rest h n
  · exact absurd h (refuse_ne_ok _ _ _ _)

theorem moves_variantEnd : Moves .plain 1 .plain 0 variantEnd := by
  refine moves_spaced fun s a rest h n => ?_
  unfold variantEnd at h
  split at h
  · cases h
  · next c t hskip =>
    split at h
    · next hc =>
      cases h
      rw [hskip, hc, valueEnd_closeObject]
      rfl
    · cases h

theorem balanced_optional {reader : Reader α} (hreader : Balanced 0 reader) :
    Balanced 0 (optional reader) := by
  refine moves_spaced fun s a rest h n => ?_
  unfold optional at h
  split at h
  · next t hskip =>
    rw [hskip]
    exact (balanced_keyword none ['u', 'l', 'l'] rfl).behind 'n' rfl t a rest h n
  · exact hreader.map some _ a rest h n

section Nested

variable (item : Nested α) (hitem : ∀ levels, Balanced 0 (item levels))

include hitem

theorem balanced_list (levels : ℕ) : Balanced 0 (list item levels) := by
  refine moves_spaced fun s as rest h n => ?_
  unfold list at h
  split at h
  · next t hskip =>
    cases levels with
    | zero => cases h
    | succ levels =>
      rw [hskip, valueEnd_openList]
      exact moves_inList (balanced_items (item levels) (hitem levels) true) t as rest h n
  · exact absurd h (refuse_ne_ok _ _ _ _)

theorem balanced_map (member : String → α → σ → σ) (start : σ) (levels : ℕ) :
    Balanced 0 (map member start item levels) := by
  have hmember (levels : ℕ) (key : String) (state : σ) :
      Balanced 0 (do colon; return member key (← item levels) state : Reader σ) :=
    Balanced.afterColon ((hitem levels).map fun a => member key a state)
  refine moves_spaced fun s final rest h n => ?_
  unfold map at h
  split at h
  · next t hskip =>
    cases levels with
    | zero => cases h
    | succ levels =>
      rw [hskip, valueEnd_openObject]
      exact moves_inObject (balanced_members _ (hmember levels) start) t final rest h n
  · exact absurd h (refuse_ne_ok _ _ _ _)

end Nested

theorem balanced_structured (expected : String) (fromArray fromObject : Nested α)
    (harray : ∀ levels, Balanced 1 (fromArray levels))
    (hobject : ∀ levels, Balanced 1 (fromObject levels)) (levels : ℕ) :
    Balanced 0 (structured expected fromArray fromObject levels) := by
  refine moves_spaced fun s a rest h n => ?_
  obtain ⟨k, t, rfl, ⟨hskip, hread⟩ | ⟨hskip, hread⟩⟩ := structured_eq_ok _ _ _ _ _ _ _ h
  · rw [hskip, valueEnd_openList]
    exact moves_inList (harray k) t a rest hread n
  · rw [hskip, valueEnd_openObject]
    exact moves_inObject (hobject k) t a rest hread n

theorem balanced_unitVariant (ofName : String → α) (levels : ℕ) :
    Balanced 0 (unitVariant ofName levels) := by
  have hcontents : Moves .plain 1 .plain 0
      (do let name ← variantName; colon; unit; variantEnd; pure (ofName name) : Reader α) :=
    Moves.bind balanced_variantName.inside fun _ => Moves.bind balanced_colon.inside fun _ =>
      Moves.bind balanced_unit.inside fun _ => Moves.bind moves_variantEnd fun _ => moves_pure _
  refine moves_spaced fun s a rest h n => ?_
  unfold unitVariant at h
  split at h
  · cases h
  · next c t hskip =>
    rw [hskip]
    split at h
    · next hc =>
      rw [hc, valueEnd_quote]
      exact moves_stringBody.map ofName t a rest h n
    split at h
    · next hc =>
      cases levels with
      | zero => cases h
      | succ levels =>
        rw [hc, valueEnd_openObject]
        exact hcontents t a rest h n
    · cases h

theorem balanced_once (name : String) (earlier : Option α) {item : Reader α}
    (hitem : Balanced 0 item) : Balanced 0 (once name earlier item) := by
  cases earlier with
  | some a => exact moves_failing fun _ _ _ h => nomatch h
  | none => exact Balanced.afterColon (hitem.map some)

theorem balanced_skipMember : Balanced 0 skipMember := balanced_skip.afterColon

theorem balanced_required (opened : ℕ) (name : String) (found : Option α) :
    Balanced opened (required name found) := by
  cases found with
  | none => exact moves_failing fun _ _ _ h => nomatch h
  | some a => exact moves_pure a

theorem balanced_element (first : Bool) {item : Reader α} (hitem : Balanced 0 item) :
    Balanced 1 (element first item) := by
  refine Moves.bind (balanced_nextItem first) fun more => ?_
  cases more with
  | true => exact hitem.inside.map some
  | false => exact moves_pure none

theorem balanced_requiredElement (index : ℕ) (expected : String) {item : Reader α}
    (hitem : Balanced 0 item) : Balanced 1 (requiredElement index expected item) := by
  refine Moves.bind (balanced_element _ hitem) fun found => ?_
  cases found with
  | none => exact moves_failing fun _ _ _ h => nomatch h
  | some a => exact moves_pure a

theorem balanced_decoded (result : Except Cause α) : Balanced 0 (decoded result) := by
  cases result with
  | error e => exact moves_failing fun _ _ _ h => nomatch h
  | ok a => exact moves_pure a

end Json

theorem Value.balanced_reader (type : String) (levels : ℕ) : Balanced 0 (reader type levels) :=
  Moves.bind (balanced_value levels) fun _ => balanced_decoded _

namespace Rule

theorem balanced_member (levels : ℕ) (key : String) (d : Draft) :
    Balanced 0 (member levels key d) := by
  refine moves_ite _ ?_ (moves_ite _ ?_ (moves_ite _ ?_ ?_))
  · exact (balanced_once "name" d.name balanced_text).map fun name => { d with name }
  · exact (balanced_once "condition" d.condition (balanced_unitVariant _ levels)).map
      fun condition => { d with condition }
  · exact (balanced_once "value" d.value (Value.balanced_reader _ levels)).map
      fun value => { d with value }
  · exact balanced_skipMember.map fun _ => d

theorem balanced_fromObject (levels : ℕ) : Balanced 1 (fromObject levels) := by
  refine Moves.bind (balanced_members _ (balanced_member levels) _) fun d => ?_
  exact (balanced_required 1 "name" d.name).map fun name =>
    Rule.mk name (d.condition.getD .unspecified) (d.value.getD .null)

theorem balanced_fromArray (levels : ℕ) : Balanced 1 (fromArray levels) := by
  refine Moves.bind (balanced_requiredElement 0 _ balanced_text) fun name => ?_
  refine Moves.bind (balanced_element false (balanced_unitVariant _ levels)) fun condition => ?_
  cases condition with
  | none => exact moves_pure _
  | some condition =>
    exact (balanced_element false (Value.balanced_reader _ levels)).map fun value =>
      Rule.mk name condition (value.getD .null)

theorem balanced_reader (levels : ℕ) : Balanced 0 (reader levels) :=
  balanced_structured _ _ _ balanced_fromArray balanced_fromObject levels

end Rule

theorem MembershipTable.balanced_reader (levels : ℕ) : Balanced 0 (reader levels) :=
  balanced_map _ (balanced_list _ fun _ => balanced_text) _ _ levels

namespace Options

theorem balanced_texts (levels : ℕ) : Balanced 0 (texts levels) :=
  balanced_list _ (fun _ => balanced_text) levels

theorem balanced_member (levels : ℕ) (key : String) (d : Draft) :
    Balanced 0 (member levels key d) := by
  refine moves_ite _ ?_ (moves_ite _ ?_ (moves_ite _ ?_ ?_))
  · exact (balanced_once key d.categorical (balanced_texts levels)).map
      fun categorical => { d with categorical }
  · exact (balanced_once key d.membership (balanced_texts levels)).map
      fun membership => { d with membership }
  · exact (balanced_once key d.symbolField balanced_text).map
      fun symbolField => { d with symbolField }
  · exact balanced_skipMember.map fun _ => d

theorem balanced_fromObject (levels : ℕ) : Balanced 1 (fromObject levels) :=
  (balanced_members _ (balanced_member levels) _).map Draft.complete

theorem balanced_fromArray (levels : ℕ) : Balanced 1 (fromArray levels) := by
  refine Moves.bind (balanced_element true (balanced_texts levels)) fun categorical => ?_
  cases categorical with
  | none => exact moves_pure _
  | some categorical =>
    refine Moves.bind (balanced_element false (balanced_texts levels)) fun membership => ?_
    cases membership with
    | none => exact moves_pure _
    | some membership =>
      exact (balanced_element false balanced_text).map fun symbolField =>
        Draft.complete ⟨some categorical, some membership, symbolField⟩

theorem balanced_reader (levels : ℕ) : Balanced 0 (reader levels) :=
  balanced_structured _ _ _ balanced_fromArray balanced_fromObject levels

end Options

namespace Request

theorem balanced_listOrNull (item : Nested α) (hitem : ∀ levels, Balanced 0 (item levels))
    (levels : ℕ) : Balanced 0 (listOrNull item levels) :=
  (balanced_optional (balanced_list item hitem levels)).map (·.getD [])

theorem balanced_readRecords (levels : ℕ) : Balanced 0 (readRecords levels) :=
  balanced_listOrNull _ (fun levels => (balanced_value levels).map Record.ofJson) levels

theorem balanced_member (levels : ℕ) (key : String) (d : Draft) :
    Balanced 0 (member levels key d) := by
  have hrules := balanced_listOrNull _ Rule.balanced_reader levels
  have htable := balanced_optional (MembershipTable.balanced_reader levels)
  have hoptions := balanced_optional (Options.balanced_reader levels)
  refine moves_ite _ ?_ (moves_ite _ ?_ (moves_ite _ ?_ (moves_ite _ ?_ ?_)))
  · exact (balanced_once key d.records (balanced_readRecords levels)).map
      fun records => { d with records }
  · exact (balanced_once key d.rules hrules).map fun rules => { d with rules }
  · exact (balanced_once key d.table htable).map fun table => { d with table }
  · exact (balanced_once key d.options hoptions).map fun options => { d with options }
  · exact balanced_skipMember.map fun _ => d

end Request

end Screening
