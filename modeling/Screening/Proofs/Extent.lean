import Screening.Proofs.Fields

/-!
# Where a value ends

A value inside an array or object ends in front of the next comma or closing bracket
that is in no string and in no bracket of its own. Nothing else has to be known of it:
a reader of any type that takes a value takes it up to there.
-/

set_option autoImplicit false

namespace Screening.Json

variable {α β σ : Type}

inductive Mode where
  | plain
  | quoted
  | escaped
  deriving DecidableEq, Repr

/-- The text from the end of a value on, some brackets of which are still open. -/
def valueEnd : Mode → ℕ → List Char → List Char
  | _, _, [] => []
  | .escaped, opened, _ :: s => valueEnd .quoted opened s
  | .quoted, opened, c :: s =>
    if c = '\\' then valueEnd .escaped opened s
    else if c = '"' then valueEnd .plain opened s
    else valueEnd .quoted opened s
  | .plain, opened, c :: s =>
    if c = '"' then valueEnd .quoted opened s
    else if c = '[' ∨ c = '{' then valueEnd .plain (opened + 1) s
    else if c = ']' ∨ c = '}' then
      match opened with
      | 0 => c :: s
      | opened + 1 => valueEnd .plain opened s
    else if c = ',' ∧ opened = 0 then c :: s
    else valueEnd .plain opened s

def isPlain (c : Char) : Bool := decide (c ∉ ['"', '[', '{', ']', '}', ','])

@[simp] theorem valueEnd_nil (mode : Mode) (opened : ℕ) : valueEnd mode opened [] = [] := by
  cases mode <;> rfl

theorem valueEnd_plain (opened : ℕ) (c : Char) (s : List Char) (hc : isPlain c = true) :
    valueEnd .plain opened (c :: s) = valueEnd .plain opened s := by
  simp only [isPlain, List.mem_cons, List.not_mem_nil, or_false, not_or, decide_eq_true_eq] at hc
  simp [valueEnd, hc]

theorem valueEnd_quote (opened : ℕ) (s : List Char) :
    valueEnd .plain opened ('"' :: s) = valueEnd .quoted opened s := rfl

theorem valueEnd_openList (opened : ℕ) (s : List Char) :
    valueEnd .plain opened ('[' :: s) = valueEnd .plain (opened + 1) s := rfl

theorem valueEnd_openObject (opened : ℕ) (s : List Char) :
    valueEnd .plain opened ('{' :: s) = valueEnd .plain (opened + 1) s := rfl

theorem valueEnd_closeList (opened : ℕ) (s : List Char) :
    valueEnd .plain (opened + 1) (']' :: s) = valueEnd .plain opened s := rfl

theorem valueEnd_closeObject (opened : ℕ) (s : List Char) :
    valueEnd .plain (opened + 1) ('}' :: s) = valueEnd .plain opened s := rfl

theorem valueEnd_comma (opened : ℕ) (s : List Char) :
    valueEnd .plain (opened + 1) (',' :: s) = valueEnd .plain (opened + 1) s := by
  simp [valueEnd]

theorem valueEnd_letter (opened : ℕ) (c : Char) (s : List Char) (hquote : c ≠ '"')
    (hescape : c ≠ '\\') : valueEnd .quoted opened (c :: s) = valueEnd .quoted opened s := by
  simp [valueEnd, hquote, hescape]

theorem valueEnd_backslash (opened : ℕ) (s : List Char) :
    valueEnd .quoted opened ('\\' :: s) = valueEnd .escaped opened s := by
  simp [valueEnd]

theorem valueEnd_escaped (opened : ℕ) (c : Char) (s : List Char) :
    valueEnd .escaped opened (c :: s) = valueEnd .quoted opened s := rfl

theorem valueEnd_dropWhile (p : Char → Bool) (hp : ∀ c, p c = true → isPlain c = true)
    (opened : ℕ) (s : List Char) :
    valueEnd .plain opened (s.dropWhile p) = valueEnd .plain opened s := by
  induction s with
  | nil => rfl
  | cons c s ih =>
    rw [List.dropWhile_cons]
    split
    · next hc => rw [ih, valueEnd_plain opened c s (hp c hc)]
    · rfl

theorem isPlain_of_isSpace (c : Char) (h : isSpace c = true) : isPlain c = true := by
  simp only [isSpace, Bool.or_eq_true, decide_eq_true_eq] at h
  rcases h with ((rfl | rfl) | rfl) | rfl <;> rfl

theorem isPlain_of_isDigit (c : Char) (h : c.isDigit = true) : isPlain c = true := by
  rw [isPlain, decide_eq_true_eq]
  intro hc
  simp only [List.mem_cons, List.not_mem_nil, or_false] at hc
  rcases hc with rfl | rfl | rfl | rfl | rfl | rfl <;> simp at h

theorem isPlain_of_isExponentMark (c : Char) (h : isExponentMark c = true) : isPlain c = true := by
  simp only [isExponentMark, Bool.or_eq_true, decide_eq_true_eq] at h
  rcases h with rfl | rfl <;> rfl

@[simp] theorem valueEnd_skipSpace (opened : ℕ) (s : List Char) :
    valueEnd .plain opened (skipSpace s) = valueEnd .plain opened s :=
  valueEnd_dropWhile isSpace isPlain_of_isSpace opened s

theorem valueEnd_digits (opened : ℕ) (s : List Char) :
    valueEnd .plain opened (s.dropWhile Char.isDigit) = valueEnd .plain opened s :=
  valueEnd_dropWhile Char.isDigit isPlain_of_isDigit opened s

/-- What a reader takes leads the search for the end of a value from one mode and a number of
open brackets to others, and does so inside any further brackets. -/
def Moves (mode : Mode) (opened : ℕ) (mode' : Mode) (opened' : ℕ) (reader : Reader α) : Prop :=
  ∀ s a rest, reader s = .ok (a, rest) → ∀ n,
    valueEnd mode (n + opened) s = valueEnd mode' (n + opened') rest

/-- A reader that closes what it opens, and takes no comma unless some brackets are open. -/
def Balanced (opened : ℕ) (reader : Reader α) : Prop := Moves .plain opened .plain opened reader

section Moves

variable {m m' m'' : Mode} {i j k : ℕ} {reader : Reader α}

theorem Moves.bind {first : Reader α} {second : α → Reader β} (hfirst : Moves m i m' j first)
    (hsecond : ∀ a, Moves m' j m'' k (second a)) : Moves m i m'' k (first >>= second) := by
  intro s b rest h n
  obtain ⟨a, t, ha, hb⟩ := (bind_eq_ok_iff first second s b rest).mp h
  rw [hfirst s a t ha n, hsecond a t b rest hb n]

theorem moves_pure (a : α) : Moves m i m i (pure a : Reader α) := by
  intro s b rest h n
  cases h
  rfl

theorem Moves.map (h : Moves m i m' j reader) (f : α → β) : Moves m i m' j (f <$> reader) := by
  intro s b rest hs n
  obtain ⟨a, ha, -⟩ := (map_eq_ok_iff f reader s b rest).mp hs
  exact h s a rest ha n

theorem moves_failing (h : ∀ s a rest, reader s ≠ .ok (a, rest)) : Moves m i m' j reader :=
  fun s a rest hs => absurd hs (h s a rest)

theorem moves_ite (p : Prop) [Decidable p] {first second : Reader α}
    (hfirst : Moves m i m' j first) (hsecond : Moves m i m' j second) :
    Moves m i m' j (if p then first else second) := by
  split
  · exact hfirst
  · exact hsecond

/-- More brackets may be open. -/
theorem Moves.deeper (h : Moves m i m' j reader) (k : ℕ) : Moves m (i + k) m' (j + k) reader := by
  intro s a rest hs n
  have hmoves := h s a rest hs (n + k)
  rwa [Nat.add_assoc, Nat.add_assoc, Nat.add_comm k, Nat.add_comm k] at hmoves

/-- A reader behind a plain character. -/
theorem Balanced.behind (h : Balanced 0 reader) (c : Char) (hc : isPlain c = true) (t : List Char)
    (a : α) (rest : List Char) (ht : reader t = .ok (a, rest)) (n : ℕ) :
    valueEnd .plain n (c :: t) = valueEnd .plain n rest := by
  rw [valueEnd_plain n c t hc]
  exact h t a rest ht n

theorem Balanced.inside (h : Balanced 0 reader) : Balanced 1 reader := h.deeper 1

/-- A reader that begins behind white space. -/
theorem moves_spaced (h : ∀ s a rest, reader s = .ok (a, rest) → ∀ n,
    valueEnd .plain (n + i) (skipSpace s) = valueEnd m' (n + j) rest) :
    Moves .plain i m' j reader := by
  intro s a rest hs n
  rw [← valueEnd_skipSpace]
  exact h s a rest hs n

end Moves

theorem balanced_keyword (value : α) (word : List Char) (hword : word.all isPlain = true) :
    Balanced 0 (keyword value word) := by
  induction word with
  | nil => exact moves_pure value
  | cons c word ih =>
    intro s a rest h n
    rw [List.all_cons, Bool.and_eq_true] at hword
    unfold keyword at h
    split at h
    · cases h
    split at h
    · next hd =>
      rw [hd]
      exact Balanced.behind (ih hword.2) c hword.1 _ a rest h n
    · cases h

theorem hexValue_ne (c : Char) (k : ℕ) (h : hexValue? c = some k) : c ≠ '"' ∧ c ≠ '\\' := by
  constructor
  · rintro rfl
    cases h
  · rintro rfl
    cases h

theorem moves_hexEscape : Moves .quoted 0 .quoted 0 hexEscape := by
  intro s k rest h n
  unfold hexEscape at h
  split at h
  · next a b c d t =>
    split at h
    · next j hj =>
      cases h
      unfold hexFour? at hj
      obtain ⟨va, ha, hj⟩ := Option.bind_eq_some_iff.mp hj
      obtain ⟨vb, hb, hj⟩ := Option.bind_eq_some_iff.mp hj
      obtain ⟨vc, hc, hj⟩ := Option.bind_eq_some_iff.mp hj
      obtain ⟨vd, hd, -⟩ := Option.bind_eq_some_iff.mp hj
      rw [valueEnd_letter _ a _ (hexValue_ne a va ha).1 (hexValue_ne a va ha).2,
        valueEnd_letter _ b _ (hexValue_ne b vb hb).1 (hexValue_ne b vb hb).2,
        valueEnd_letter _ c _ (hexValue_ne c vc hc).1 (hexValue_ne c vc hc).2,
        valueEnd_letter _ d _ (hexValue_ne d vd hd).1 (hexValue_ne d vd hd).2]
    · cases h
  · split at h <;> cases h

theorem moves_lowSurrogate (high : ℕ) : Moves .quoted 0 .quoted 0 (lowSurrogate high) := by
  intro s c rest h n
  unfold lowSurrogate at h
  split at h
  · cases h
  · split at h
    · cases h
    · next t =>
      split at h
      · next low u hlow =>
        split at h
        · simp only [Except.ok.injEq, Prod.mk.injEq] at h
          obtain ⟨rfl, rfl⟩ := h
          rw [valueEnd_backslash, valueEnd_escaped, moves_hexEscape t low u hlow n]
        · cases h
      · cases h
    · cases h
  · cases h

theorem moves_unicodeEscape : Moves .quoted 0 .quoted 0 unicodeEscape :=
  Moves.bind moves_hexEscape fun k =>
    moves_ite _ (moves_failing fun _ _ _ h => nomatch h) <|
      moves_ite _ (moves_lowSurrogate k) (moves_pure _)

theorem moves_escape : Moves .escaped 0 .quoted 0 escape := by
  intro s c rest h n
  cases s with
  | nil => cases h
  | cons d s =>
    rw [valueEnd_escaped]
    simp only [escape] at h
    iterate 8
      split at h
      · cases h
        rfl
    split at h
    · exact moves_unicodeEscape s c rest h n
    · cases h

theorem moves_stringRest (clock : List Char) : Moves .quoted 0 .plain 0 (stringRest clock) := by
  induction clock with
  | nil => exact moves_failing fun _ _ _ h => nomatch h
  | cons tick clock ih =>
    intro s cs rest h n
    cases s with
    | nil => cases h
    | cons c s =>
      simp only [stringRest] at h
      split at h
      · next hquote =>
        cases h
        rw [hquote]
        rfl
      split at h
      · next hquote hescape =>
        rw [hescape, valueEnd_backslash]
        exact Moves.bind moves_escape (fun d => ih.map (d :: ·)) s cs rest h n
      split at h
      · cases h
      · next hquote hescape hcontrol =>
        rw [valueEnd_letter _ c s hquote hescape]
        exact ih.map (c :: ·) s cs rest h n

theorem moves_stringBody : Moves .quoted 0 .plain 0 stringBody :=
  fun s => (moves_stringRest s).map String.ofList s

theorem Stays.balanced {reader : Reader α} (h : Stays reader) : Balanced 0 reader := by
  intro s a rest hs n
  obtain ⟨rfl, -⟩ := h s a rest hs
  rfl

theorem balanced_scaled (negative : Bool) (k : ℕ) (exponent : ℤ) :
    Balanced 0 (scaled negative k exponent) :=
  (stays_scaled negative k exponent).balanced

theorem valueEnd_significand (k : ℕ) (s : List Char) (opened : ℕ) :
    valueEnd .plain opened (significand k s).2.2 = valueEnd .plain opened s := by
  induction s generalizing k with
  | nil => rfl
  | cons c s ih =>
    unfold significand
    split
    · next hc => rw [ih, valueEnd_plain opened c s (isPlain_of_isDigit c hc.1)]
    · rfl

theorem balanced_exponentDigits (negative small : Bool) (k : ℕ) (exponent : ℤ) (e : ℕ) :
    Balanced 0 (exponentDigits negative small k exponent e) := by
  intro s
  induction s generalizing e with
  | nil => exact balanced_scaled _ _ _ []
  | cons c s ih =>
    intro x rest h n
    unfold exponentDigits at h
    split at h
    · next hc =>
      rw [valueEnd_plain _ c s (isPlain_of_isDigit c hc)]
      simp only at h
      split at h
      · exact ih _ x rest h n
      split at h
      · cases h
      · cases h
        exact (valueEnd_digits n s).symm
    · exact balanced_scaled _ _ _ _ x rest h n

theorem balanced_exponentFirst (negative small : Bool) (k : ℕ) (exponent : ℤ) :
    Balanced 0 (exponentFirst negative small k exponent) := by
  intro s x rest h n
  unfold exponentFirst at h
  split at h
  · cases h
  · next c t =>
    split at h
    · next hc =>
      exact (balanced_exponentDigits _ _ _ _ _).behind c (isPlain_of_isDigit c hc) t x rest h n
    · cases h

theorem balanced_exponentPart (negative : Bool) (k : ℕ) (exponent : ℤ) :
    Balanced 0 (exponentPart negative k exponent) := by
  intro s x rest h n
  unfold exponentPart at h
  split at h
  · exact (balanced_exponentFirst _ _ _ _).behind '+' rfl _ x rest h n
  · exact (balanced_exponentFirst _ _ _ _).behind '-' rfl _ x rest h n
  · exact balanced_exponentFirst _ _ _ _ s x rest h n

theorem balanced_afterDigits (negative : Bool) (k : ℕ) (exponent : ℤ) :
    Balanced 0 (afterDigits negative k exponent) := by
  intro s x rest h n
  unfold afterDigits at h
  split at h
  · next c t =>
    split at h
    · next hc =>
      exact (balanced_exponentPart _ _ _).behind c (isPlain_of_isExponentMark c hc) t x rest h n
    · exact balanced_scaled _ _ _ _ x rest h n
  · exact balanced_scaled _ _ _ _ x rest h n

theorem balanced_fraction (negative : Bool) (k : ℕ) (exponent : ℤ) :
    Balanced 0 (fraction negative k exponent) := by
  intro s x rest h n
  unfold fraction at h
  split at h
  · cases h
  · next c t =>
    split at h
    · rw [← valueEnd_significand k, ← valueEnd_digits]
      exact balanced_afterDigits _ _ _ _ x rest h n
    · cases h

theorem balanced_afterWhole (negative : Bool) (k surplus : ℕ) :
    Balanced 0 (afterWhole negative k surplus) := by
  have hend (s : List Char) (x : Number) (rest : List Char) (n : ℕ)
      (h : (if surplus = 0 then .ok (wholeNumber negative k, s) else scaled negative k surplus s) =
        Except.ok (x, rest)) : valueEnd .plain n s = valueEnd .plain n rest := by
    split at h
    · cases h
      rfl
    · exact balanced_scaled _ _ _ s x rest h n
  intro s x rest h n
  unfold afterWhole at h
  split at h
  · exact hend [] x rest n h
  · next c t =>
    split at h
    · next hc =>
      rw [hc]
      exact (balanced_fraction _ _ _).behind '.' rfl t x rest h n
    split at h
    · next hc =>
      exact (balanced_exponentPart _ _ _).behind c (isPlain_of_isExponentMark c hc) t x rest h n
    · exact hend (c :: t) x rest n h

theorem balanced_numberBody (negative : Bool) : Balanced 0 (numberBody negative) := by
  intro s x rest h n
  unfold numberBody at h
  split at h
  · cases h
  · next c t =>
    split at h
    · next hc =>
      rw [hc]
      split at h
      · cases h
      · exact (balanced_afterWhole _ _ _).behind '0' rfl t x rest h n
    split at h
    · next hc =>
      rw [valueEnd_plain _ c t (isPlain_of_isDigit c hc), ← valueEnd_significand (digitOf c),
        ← valueEnd_digits]
      exact balanced_afterWhole _ _ _ _ x rest h n
    · cases h

theorem moves_closeList : Moves .plain 1 .plain 0 closeList := by
  refine moves_spaced fun s a rest h n => ?_
  rw [(closeList_eq_ok_iff s rest a).mp h, valueEnd_closeList]
  rfl

theorem moves_closeObject : Moves .plain 1 .plain 0 closeObject := by
  refine moves_spaced fun s a rest h n => ?_
  rw [(closeObject_eq_ok_iff s rest a).mp h, valueEnd_closeObject]
  rfl

theorem balanced_colon : Balanced 0 colon := by
  refine moves_spaced fun s a rest h n => ?_
  rw [(colon_eq_ok_iff s rest a).mp h, valueEnd_plain _ ':' rest rfl]

theorem Balanced.afterColon {reader : Reader α} (h : Balanced 0 reader) :
    Balanced 0 (do colon; reader) :=
  Moves.bind balanced_colon fun _ => h

theorem moves_enclosed (leave : List Char → List Char) {close : Reader Unit} {contents : Reader α}
    (hclose : Moves .plain 1 .plain 0 close) (hcontents : Balanced 1 contents) :
    Moves .plain 1 .plain 0 (enclosed leave close contents) := by
  intro s a rest h n
  obtain ⟨t, hcontent, hend⟩ := (enclosed_eq_ok_iff leave close contents s rest a).mp h
  rw [hcontents s a t hcontent n, hclose t () rest hend n]

theorem moves_inList {contents : Reader α} (h : Balanced 1 contents) :
    Moves .plain 1 .plain 0 (inList contents) :=
  moves_enclosed leaveList moves_closeList h

theorem moves_inObject {contents : Reader α} (h : Balanced 1 contents) :
    Moves .plain 1 .plain 0 (inObject contents) :=
  moves_enclosed leaveObject moves_closeObject h

theorem balanced_nextItem (first : Bool) : Balanced 1 (nextItem first) := by
  refine moves_spaced fun s more rest h n => ?_
  unfold nextItem at h
  split at h
  · cases h
  · next c t hskip =>
    rw [hskip]
    split at h
    · cases h
      rfl
    split at h
    · cases h
      rfl
    split at h
    · next hc =>
      rw [hc, valueEnd_comma, ← valueEnd_skipSpace]
      split at h
      · cases h
      · next d u hskip =>
        rw [hskip]
        split at h
        · cases h
        · cases h
          rfl
    · cases h

theorem balanced_itemsWithin (item : Reader α) (hitem : Balanced 0 item) (clock : List Char)
    (first : Bool) : Balanced 1 (itemsWithin item clock first) := by
  induction clock generalizing first with
  | nil => exact moves_failing fun _ _ _ h => nomatch h
  | cons tick clock ih =>
    refine Moves.bind (balanced_nextItem first) fun more => ?_
    cases more with
    | false => exact moves_pure []
    | true => exact Moves.bind hitem.inside fun a => (ih false).map (a :: ·)

theorem balanced_items (item : Reader α) (hitem : Balanced 0 item) (first : Bool) :
    Balanced 1 (items item first) :=
  fun s => balanced_itemsWithin item hitem s first s

theorem moves_key : Moves .quoted 1 .plain 1 (some <$> stringBody) :=
  (moves_stringBody.deeper 1).map some

theorem balanced_nextKey (first : Bool) : Balanced 1 (nextKey first) := by
  refine moves_spaced fun s key rest h n => ?_
  unfold nextKey at h
  split at h
  · cases h
  · next c t hskip =>
    rw [hskip]
    split at h
    · cases h
      rfl
    split at h
    · split at h
      · next hc =>
        rw [hc, valueEnd_quote]
        exact moves_key t key rest h n
      · cases h
    split at h
    · next hc =>
      rw [hc, valueEnd_comma, ← valueEnd_skipSpace]
      split at h
      · cases h
      · next d u hskip =>
        rw [hskip]
        split at h
        · next hd =>
          rw [hd, valueEnd_quote]
          exact moves_key u key rest h n
        · split at h <;> cases h
    · cases h

theorem balanced_membersWithin (member : String → σ → Reader σ)
    (hmember : ∀ key state, Balanced 0 (member key state)) (clock : List Char) (first : Bool)
    (state : σ) : Balanced 1 (membersWithin member clock first state) := by
  induction clock generalizing first state with
  | nil => exact moves_failing fun _ _ _ h => nomatch h
  | cons tick clock ih =>
    refine Moves.bind (balanced_nextKey first) fun key => ?_
    cases key with
    | none => exact moves_pure state
    | some key => exact Moves.bind (hmember key state).inside fun state' => ih false state'

theorem balanced_members (member : String → σ → Reader σ)
    (hmember : ∀ key state, Balanced 0 (member key state)) (start : σ) :
    Balanced 1 (members member start) :=
  fun s => balanced_membersWithin member hmember s true start s

theorem moves_arrayOf (item : Reader Json) (hitem : Balanced 0 item) :
    Moves .plain 1 .plain 0 (arrayOf item) :=
  moves_inList ((balanced_items item hitem true).map array)

theorem moves_objectOf (item : Reader Json) (hitem : Balanced 0 item) :
    Moves .plain 1 .plain 0 (objectOf item) :=
  moves_inObject ((balanced_members _ (fun key read =>
    Balanced.afterColon (hitem.map fun j => (key, j) :: read)) []).map
      fun read => object read.reverse)

theorem balanced_valueAround (inner : Option (Reader Json))
    (hinner : ∀ item, inner = some item → Balanced 0 item) : Balanced 0 (valueAround inner) := by
  refine moves_spaced fun s j rest h n => ?_
  cases hskip : skipSpace s with
  | nil => exact absurd h (valueAround_nil inner s j rest hskip)
  | cons c t =>
    rw [valueAround_eq inner s c t hskip] at h
    unfold valueFrom at h
    split at h
    · next hc =>
      rw [hc]
      exact (balanced_keyword _ ['u', 'l', 'l'] rfl).behind 'n' rfl t j rest h n
    split at h
    · next hc =>
      rw [hc]
      exact (balanced_keyword _ ['r', 'u', 'e'] rfl).behind 't' rfl t j rest h n
    split at h
    · next hc =>
      rw [hc]
      exact (balanced_keyword _ ['a', 'l', 's', 'e'] rfl).behind 'f' rfl t j rest h n
    split at h
    · next hc =>
      rw [hc]
      exact Balanced.behind ((balanced_numberBody true).map number) '-' rfl t j rest h n
    split at h
    · exact (balanced_numberBody false).map number (c :: t) j rest h n
    split at h
    · next hc =>
      rw [hc, valueEnd_quote]
      exact moves_stringBody.map string t j rest h n
    split at h
    · next hc =>
      cases inner with
      | none => cases h
      | some item =>
        rw [hc, valueEnd_openList]
        exact moves_arrayOf item (hinner item rfl) t j rest h n
    split at h
    · next hc =>
      cases inner with
      | none => cases h
      | some item =>
        rw [hc, valueEnd_openObject]
        exact moves_objectOf item (hinner item rfl) t j rest h n
    · cases h

theorem balanced_value (levels : ℕ) : Balanced 0 (value levels) := by
  induction levels with
  | zero => exact balanced_valueAround none fun _ h => nomatch h
  | succ levels ih =>
    apply balanced_valueAround
    intro item h
    cases h
    exact ih

end Screening.Json
