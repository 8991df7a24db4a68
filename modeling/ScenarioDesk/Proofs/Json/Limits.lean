import ScenarioDesk.Proofs.Json.Reading

/-! Where the reader gives up on a text for another reason than its grammar. It converts no integer with
more digits than its limit, and it goes no deeper into arrays and objects than the levels left to it. Both
are read off the text itself: what stands in its strings has no part in it. -/
namespace ScenarioDesk.Json

/-- A text without what its strings hold. Only their quotes are left. A backslash in a string takes the
next character with it. -/
def bareFrom : (inString : Bool) → Text → Text
  | _, [] => []
  | false, c :: rest => c :: bareFrom (c = '"') rest
  | true, .char '\\' :: _ :: rest => bareFrom true rest
  | true, c :: rest => if c = '"' then c :: bareFrom false rest else bareFrom true rest

/-- A text without what its strings hold. -/
def bare (text : Text) : Text := bareFrom false text

/-- The character opens an array or an object. -/
def opens (c : CodePoint) : Bool := c = '[' || c = '\x7b'

/-- The character closes an array or an object. -/
def closes (c : CodePoint) : Bool := c = ']' || c = '\x7d'

/-- How many arrays and objects are open at once, at most, if `level` of them are open before the text. -/
def deepest : (level : Nat) → Text → Nat
  | level, [] => level
  | level, c :: rest =>
    if opens c then deepest (level + 1) rest
    else if closes c then max level (deepest (level - 1) rest)
    else deepest level rest

/-- No integer of the text has too many digits, and its arrays and objects leave as many levels as it takes
to report a fault, where strings do not count. -/
structure Moderate (depth : Nat) (text : Text) : Prop where
  digits : ∀ numeral, numeral <:+: bare text → (∀ c ∈ numeral, c.isDigit = true) →
    numeral.length ≤ digitLimit
  nesting : deepest 0 (bare text) + faultDepth ≤ depth

/-- The refusal is about a limit of the reader and not about the grammar. -/
def ReadError.isLimit : ReadError → Bool
  | .malformed .. => false
  | .hugeInteger _ | .tooDeep _ => true

/-- With these levels left the reader refuses the text, and not for its grammar. -/
def BeyondLimits (depth : Nat) (text : Text) : Prop :=
  ∃ error, readWithin depth text = .error error ∧ error.isLimit = true

section

variable {depth : Nat} {text : Text}

theorem beyondLimits_iff {error : ReadError} (h : readWithin depth text = .error error) :
    BeyondLimits depth text ↔ error.isLimit = true := by
  constructor
  · rintro ⟨other, hRead, hLimit⟩
    rw [h] at hRead
    cases hRead
    exact hLimit
  · exact fun hLimit => ⟨error, h, hLimit⟩

theorem not_beyondLimits_of_readWithin {value : Json} (h : readWithin depth text = .ok value) :
    ¬ BeyondLimits depth text := by
  rintro ⟨error, hRead, _⟩
  rw [h] at hRead
  cases hRead

instance (depth : Nat) (text : Text) : Decidable (BeyondLimits depth text) :=
  match h : readWithin depth text with
  | .ok _ => .isFalse (not_beyondLimits_of_readWithin h)
  | .error _ => decidable_of_iff' _ (beyondLimits_iff h)

end

theorem level_le_deepest (level : Nat) (text : Text) : level ≤ deepest level text := by
  induction text generalizing level with
  | nil => exact Nat.le_refl level
  | cons c rest ih =>
      have hOpened := ih (level + 1)
      rw [deepest]
      split
      · omega
      · split
        · exact Nat.le_max_left _ _
        · exact ih level

/-! ## What is left of a text -/

/-- The character begins no string and neither opens nor closes an array or an object. -/
def IsInert (c : CodePoint) : Prop := c ≠ '"' ∧ opens c = false ∧ closes c = false

instance (c : CodePoint) : Decidable (IsInert c) := inferInstanceAs (Decidable (_ ∧ _ ∧ _))

theorem isInert_of_isDigit {c : CodePoint} (h : c.isDigit = true) : IsInert c := by
  have hNot : ∀ d : CodePoint, d.isDigit = false → c ≠ d := fun d => isDigit_ne h
  refine ⟨hNot _ rfl, ?_, ?_⟩
  · simp [opens, hNot '[' rfl, hNot '\x7b' rfl]
  · simp [closes, hNot ']' rfl, hNot '\x7d' rfl]

theorem isInert_of_isSpace {c : CodePoint} (h : isSpace c = true) : IsInert c := by
  simp only [isSpace, Bool.or_eq_true, decide_eq_true_eq] at h
  rcases h with ((rfl | rfl) | rfl) | rfl
  all_goals decide

/-- After some reading `after` is left of a text. Besides what it opened itself, the part that was read
closes as many arrays and objects as `closing` says. -/
structure Follows (closing : Nat) (after text : Text) : Prop where
  suffix : bare after <:+ bare text
  deepest_le : ∀ level, deepest level (bare after) ≤ deepest (level + closing) (bare text)

theorem Follows.refl (text : Text) : Follows 0 text text := ⟨List.suffix_refl _, fun _ => Nat.le_refl _⟩

theorem Follows.trans {first second : Nat} {after middle text : Text} (h : Follows first after middle)
    (hMiddle : Follows second middle text) : Follows (first + second) after text := by
  refine ⟨h.suffix.trans hMiddle.suffix, fun level => ?_⟩
  rw [← Nat.add_assoc]
  exact Nat.le_trans (h.deepest_le level) (hMiddle.deepest_le (level + first))

theorem bare_cons {c : CodePoint} (h : c ≠ '"') (rest : Text) : bare (c :: rest) = c :: bare rest := by
  rw [bare, bareFrom, decide_eq_false h]
  rfl

theorem ne_quote_of_opens {c : CodePoint} (h : opens c = true) : c ≠ '"' := by
  rintro rfl
  cases h

theorem ne_quote_of_closes {c : CodePoint} (h : closes c = true) : c ≠ '"' := by
  rintro rfl
  cases h

theorem deepest_bare_opens {c : CodePoint} (h : opens c = true) (level : Nat) (rest : Text) :
    deepest level (bare (c :: rest)) = deepest (level + 1) (bare rest) := by
  rw [bare_cons (ne_quote_of_opens h), deepest, if_pos h]

theorem follows_cons {c : CodePoint} (h : IsInert c) (rest : Text) : Follows 0 rest (c :: rest) := by
  obtain ⟨hQuote, hOpens, hCloses⟩ := h
  refine ⟨?_, fun level => ?_⟩
  · rw [bare_cons hQuote]
    exact List.suffix_cons _ _
  · rw [bare_cons hQuote, deepest, hOpens, hCloses]
    exact Nat.le_refl _

/-- Behind the end of an array or an object. -/
theorem follows_closes {c : CodePoint} (h : closes c = true) (after : Text) :
    Follows 1 after (c :: after) := by
  have hOpens : opens c = false := by
    simp only [closes, Bool.or_eq_true, decide_eq_true_eq] at h
    rcases h with rfl | rfl
    all_goals rfl
  refine ⟨?_, fun level => ?_⟩
  · rw [bare_cons (ne_quote_of_closes h)]
    exact List.suffix_cons _ _
  · rw [bare_cons (ne_quote_of_closes h), deepest, hOpens, if_neg Bool.false_ne_true, if_pos h]
    exact Nat.le_max_right _ _

/-- What closes one thing more than it opens closes the array or the object in front of it. -/
theorem Follows.opens {c : CodePoint} (hOpens : opens c = true) {after rest : Text}
    (h : Follows 1 after rest) : Follows 0 after (c :: rest) := by
  refine ⟨?_, fun level => ?_⟩
  · rw [bare_cons (ne_quote_of_opens hOpens)]
    exact h.suffix.trans (List.suffix_cons _ _)
  · rw [deepest_bare_opens hOpens]
    exact h.deepest_le level

/-- The text begins with inert characters, and the other one is the rest. -/
def Passes (after text : Text) : Prop := ∃ front, (∀ c ∈ front, IsInert c) ∧ front ++ after = text

theorem Passes.refl (text : Text) : Passes text text := ⟨[], nofun, rfl⟩

theorem Passes.trans {after middle text : Text} (h : Passes after middle) (hMiddle : Passes middle text) :
    Passes after text := by
  obtain ⟨back, hBack, rfl⟩ := h
  obtain ⟨front, hFront, rfl⟩ := hMiddle
  refine ⟨front ++ back, ?_, List.append_assoc _ _ _⟩
  exact List.forall_mem_append.mpr ⟨hFront, hBack⟩

theorem passes_cons {c : CodePoint} (h : IsInert c) (rest : Text) : Passes rest (c :: rest) :=
  ⟨[c], List.forall_mem_singleton.mpr h, rfl⟩

theorem Passes.follows {after text : Text} (h : Passes after text) : Follows 0 after text := by
  obtain ⟨front, hFront, rfl⟩ := h
  induction front with
  | nil => exact .refl after
  | cons c rest ih =>
      obtain ⟨hFirst, hRest⟩ := List.forall_mem_cons.mp hFront
      exact (ih hRest).trans (follows_cons hFirst (rest ++ after))

theorem passes_skipSpace (text : Text) : Passes (skipSpace text) text := by
  refine ⟨text.takeWhile isSpace, fun c hMem => ?_, List.takeWhile_append_dropWhile⟩
  exact isInert_of_isSpace (List.all_eq_true.mp List.all_takeWhile c hMem)

theorem passes_dropWhile_isDigit (text : Text) : Passes (text.dropWhile CodePoint.isDigit) text := by
  refine ⟨text.takeWhile CodePoint.isDigit, fun c hMem => ?_, List.takeWhile_append_dropWhile⟩
  exact isInert_of_isDigit (List.all_eq_true.mp List.all_takeWhile c hMem)

/-- Behind the blanks in front of a text. -/
theorem follows_of_skipSpace {text rest : Text} (h : skipSpace text = rest) : Follows 0 rest text :=
  h ▸ (passes_skipSpace text).follows

/-! ## Strings -/

theorem bareFrom_cons {c : CodePoint} (hQuote : c ≠ '"') (hSlash : c ≠ '\\') (rest : Text) :
    bareFrom true (c :: rest) = bareFrom true rest := by
  rw [bareFrom, if_neg hQuote]
  rintro _ _ rfl
  exact absurd rfl hSlash

theorem bareFrom_hexCode {digits : Text} {code : Nat} (h : hexCode digits = some code) :
    bareFrom true digits = bareFrom true (digits.drop 4) := by
  have hDigit : ∀ {c : CodePoint} {value : Nat}, hexValue c = some value → c ≠ '"' ∧ c ≠ '\\' := by
    intro c value hValue
    constructor
    · rintro rfl
      cases hValue
    · rintro rfl
      cases hValue
  unfold hexCode at h
  split at h
  · simp only [Option.bind_eq_bind, Option.bind_eq_some_iff] at h
    obtain ⟨_, hFirst, _, hSecond, _, hThird, _, hFourth, _⟩ := h
    rw [bareFrom_cons (hDigit hFirst).1 (hDigit hFirst).2,
      bareFrom_cons (hDigit hSecond).1 (hDigit hSecond).2,
      bareFrom_cons (hDigit hThird).1 (hDigit hThird).2,
      bareFrom_cons (hDigit hFourth).1 (hDigit hFourth).2]
    rfl
  · cases h

/-- An escape leaves nothing outside of the string. -/
theorem bareFrom_readEscape {opening rest : Text} {meant : CodePoint} {width : Nat}
    (h : readEscape opening (.char '\\' :: rest) = .ok (meant, width)) :
    bareFrom true (.char '\\' :: rest) = bareFrom true (rest.drop width) := by
  rw [readEscape, List.drop_one, List.tail_cons] at h
  split at h
  · cases h
  · next digits =>
      split at h
      · next code hCode =>
          cases h
          rw [bareFrom, List.drop_succ_cons, bareFrom_hexCode hCode]
          split
          · next low hLow =>
              split at hLow
              · unfold lowHalf? at hLow
                split at hLow
                · next pair hPair =>
                    obtain ⟨hSecond, _⟩ := Option.filter_eq_some_iff.mp hLow
                    have hDrop : digits.drop 10 = pair.drop 4 := by
                      have hMore : (digits.drop 4).drop 6 = pair.drop 4 := by
                        rw [hPair]
                        rfl
                      rw [← hMore, List.drop_drop]
                    dsimp only
                    rw [hPair, bareFrom, bareFrom_hexCode hSecond, hDrop]
                · cases hLow
              · cases hLow
          · rfl
      · cases h
  · split at h
    · cases h
      rfl
    · cases h
  · cases h

theorem malformed_of_readEscape {opening here : Text} {refusal : Refusal}
    (h : readEscape opening here = .error refusal) : ∃ reason rest, refusal = .malformed reason rest := by
  unfold readEscape at h
  split at h
  · cases h
    exact ⟨_, _, rfl⟩
  · split at h
    · cases h
    · cases h
      exact ⟨_, _, rfl⟩
  · split at h
    · cases h
    · cases h
      exact ⟨_, _, rfl⟩
  · cases h
    exact ⟨_, _, rfl⟩

/-- What reading the content of a string leads to: what is left outside of the string, or a fault in the
grammar. -/
def EndsString (text : Text) : Except Refusal (Text × Text) → Prop
  | .ok (_, after) => bareFrom true text = .char '"' :: bare after
  | .error refusal => ∃ reason rest, refusal = .malformed reason rest

theorem EndsString.cons {text rest : Text} {read : Except Refusal (Text × Text)} (h : EndsString rest read)
    (hSame : bareFrom true text = bareFrom true rest) (c : CodePoint) :
    EndsString text (read >>= fun found => pure (c :: found.1, found.2)) := by
  cases read with
  | error refusal => exact h
  | ok found => exact hSame.trans h

theorem endsString_readContent (opening : Text) (skip : Nat) (text : Text) :
    EndsString (text.drop skip) (readContent opening skip text) := by
  induction text generalizing skip with
  | nil =>
      rw [List.drop_nil]
      unfold readContent
      exact ⟨_, _, rfl⟩
  | cons c rest ih =>
      cases skip with
      | succ skip => exact ih skip
      | zero =>
          rw [List.drop_zero]
          unfold readContent
          split
          · next hQuote =>
              subst hQuote
              exact rfl
          · next hQuote =>
              split
              · next hSlash =>
                  subst hSlash
                  cases hEscape : readEscape opening (.char '\\' :: rest) with
                  | error refusal => exact malformed_of_readEscape hEscape
                  | ok found => exact (ih found.2).cons (bareFrom_readEscape hEscape) found.1
              · next hSlash =>
                  split
                  · exact ⟨_, _, rfl⟩
                  · exact (ih 0).cons (bareFrom_cons hQuote hSlash rest) c

/-! ## Reading -/

/-- How many levels are needed beside those of the text. -/
def Excess.need : Excess → Nat
  | .array | .object => 0
  | .call | .shown => faultDepth

theorem Excess.need_le (excess : Excess) : excess.need ≤ faultDepth := by
  cases excess <;> decide

/-- A refusal for another reason than the grammar is justified by the text, when the reader may go as
deep as `depth` says. -/
def Justifies (depth : Nat) (text : Text) : Refusal → Prop
  | .malformed .. => True
  | .hugeInteger digits => digitLimit < digits ∧
    ∃ numeral, numeral <:+: bare text ∧ (∀ c ∈ numeral, c.isDigit = true) ∧ numeral.length = digits
  | .tooDeep excess => ∀ level, level + depth < deepest level (bare text) + excess.need

/-- What reading a part of a text leads to: the rest of the text, or a justified refusal. -/
def Reads {α : Type} (closing depth : Nat) (text : Text) : Except Refusal (α × Text) → Prop
  | .ok (_, after) => Follows closing after text
  | .error refusal => Justifies depth text refusal

section Relations

variable {α β : Type} {closing depth : Nat} {text : Text}

theorem Justifies.of_follows {middle : Text} {refusal : Refusal} (h : Justifies depth middle refusal)
    (hMiddle : Follows 0 middle text) : Justifies depth text refusal := by
  cases refusal with
  | malformed reason rest => trivial
  | hugeInteger digits =>
      obtain ⟨hLong, numeral, hInfix, hNumeral⟩ := h
      exact ⟨hLong, numeral, hInfix.trans hMiddle.suffix.isInfix, hNumeral⟩
  | tooDeep excess =>
      exact fun level => Nat.lt_of_lt_of_le (h level) (Nat.add_le_add_right (hMiddle.deepest_le level) _)

theorem Justifies.opens {c : CodePoint} (hOpens : opens c = true) {refusal : Refusal}
    (h : Justifies depth text refusal) : Justifies (depth + 1) (c :: text) refusal := by
  cases refusal with
  | malformed reason rest => trivial
  | hugeInteger digits =>
      obtain ⟨hLong, numeral, hInfix, hNumeral⟩ := h
      refine ⟨hLong, numeral, ?_, hNumeral⟩
      rw [bare_cons (ne_quote_of_opens hOpens)]
      exact hInfix.trans (List.suffix_cons _ _).isInfix
  | tooDeep excess =>
      intro level
      have hInside := h (level + 1)
      rw [deepest_bare_opens hOpens]
      omega

theorem Reads.of_follows {middle : Text} {read : Except Refusal (α × Text)}
    (h : Reads closing depth middle read) (hMiddle : Follows 0 middle text) :
    Reads closing depth text read := by
  cases read with
  | error refusal => exact Justifies.of_follows h hMiddle
  | ok found => exact Follows.trans h hMiddle

/-- An array or an object is read from its first character on. -/
theorem Reads.opens {c : CodePoint} (hOpens : opens c = true) {read : Except Refusal (α × Text)}
    (h : Reads 1 depth text read) : Reads 0 (depth + 1) (c :: text) read := by
  cases read with
  | error refusal => exact Justifies.opens hOpens h
  | ok found => exact Follows.opens hOpens h

/-- Reading goes on where it has come to. -/
theorem Reads.bind {read : Except Refusal (α × Text)} {next : α × Text → Except Refusal (β × Text)}
    (h : Reads 0 depth text read)
    (hNext : ∀ found, Follows 0 found.2 text → Reads closing depth text (next found)) :
    Reads closing depth text (read >>= next) := by
  cases read with
  | error refusal => exact h
  | ok found => exact hNext found h

theorem Reads.map {read : Except Refusal (α × Text)} (h : Reads closing depth text read) (wrap : α → β) :
    Reads closing depth text (read >>= fun found => pure (wrap found.1, found.2)) := by
  cases read with
  | error refusal => exact h
  | ok found => exact h

end Relations

theorem bare_append {front : Text} (h : ∀ c ∈ front, IsInert c) (rest : Text) :
    bare (front ++ rest) = front ++ bare rest := by
  induction front with
  | nil => rfl
  | cons c front ih =>
      obtain ⟨hFirst, hFront⟩ := List.forall_mem_cons.mp h
      rw [List.cons_append, bare_cons hFirst.1, ih hFront, List.cons_append]

theorem append_of_readWhole {text whole after : Text} (h : readWhole text = some (whole, after)) :
    whole ++ after = text := by
  unfold readWhole at h
  split at h
  · cases h
    rfl
  · split at h
    · cases h
      exact List.takeWhile_append_dropWhile
    · cases h
  · cases h

theorem passes_readFraction (text : Text) : Passes ((readFraction text).getD ([], text)).2 text := by
  unfold readFraction
  split
  · next rest =>
      split
      · exact .refl _
      · exact (passes_dropWhile_isDigit rest).trans (passes_cons (by decide) rest)
  · exact .refl _

theorem passes_readPower {text after : Text} {power : Int} (h : readPower text = some (power, after)) :
    Passes after text := by
  unfold readPower at h
  split at h
  · next c rest =>
      split at h
      · next hLetter =>
          have hFirst : IsInert c := by
            rcases hLetter with rfl | rfl
            all_goals decide
          split at h
          next negative digits hSign =>
          have hDigits : Passes digits rest := by
            split at hSign
            · cases hSign
              exact passes_cons (by decide) _
            · cases hSign
              exact passes_cons (by decide) _
            · cases hSign
              exact .refl _
          split at h
          · cases h
          · next hSpan =>
              cases h
              obtain ⟨_, rfl⟩ := Prod.mk.inj hSpan
              exact ((passes_dropWhile_isDigit digits).trans hDigits).trans (passes_cons hFirst rest)
      · cases h
  · cases h

theorem reads_readNumber (depth : Nat) (text : Text) : Reads 0 depth text (readNumber text) := by
  unfold readNumber
  split
  next negative unsigned hSign =>
  have hUnsigned : Passes unsigned text := by
    split at hSign
    · cases hSign
      exact passes_cons (by decide) _
    · cases hSign
      exact .refl _
  cases hWhole : readWhole unsigned with
  | none => trivial
  | some found =>
      obtain ⟨whole, afterWhole⟩ := found
      have hDigits := isDigit_of_readWhole hWhole
      have hInert : ∀ c ∈ whole, IsInert c := fun c hMem => isInert_of_isDigit (hDigits c hMem)
      have hAppend := append_of_readWhole hWhole
      have hAfterWhole : Passes afterWhole text := Passes.trans ⟨whole, hInert, hAppend⟩ hUnsigned
      have hFraction := (passes_readFraction afterWhole).trans hAfterWhole
      have hInfix : whole <:+: bare unsigned := by
        rw [← hAppend, bare_append hInert]
        exact (List.prefix_append _ _).isInfix
      -- The digits are refused for their number only where they are the whole of the number.
      have hEither : ∀ {after : Text} {isInteger : Prop} [Decidable isInteger] (exact other : Json),
          Passes after text →
          Reads 0 depth text
            (if isInteger then
              if digitLimit < whole.length then .error (.hugeInteger whole.length) else .ok (exact, after)
            else .ok (other, after)) := by
        intro after isInteger _ exact other hAfter
        split
        · split
          · next hLong =>
              exact ⟨hLong, whole, hInfix.trans hUnsigned.follows.suffix.isInfix, hDigits, rfl⟩
          · exact hAfter.follows
        · exact hAfter.follows
      dsimp only
      cases hPower : readPower ((readFraction afterWhole).getD ([], afterWhole)).2 with
      | none => exact hEither _ _ hFraction
      | some found => exact hEither _ _ ((passes_readPower hPower).trans hFraction)

/-- A call is refused only where fewer levels are left than it takes to report a fault. -/
theorem justifies_call {depth : Nat} (h : depth < faultDepth) (text : Text) :
    Justifies depth text (.tooDeep .call) := by
  intro level
  have hLevel := level_le_deepest level (bare text)
  show level + depth < deepest level (bare text) + faultDepth
  omega

theorem justifies_reportedAt (depth : Nat) (text : Text) (reason : Reason) (rest : Text) :
    Justifies depth text (Refusal.reportedAt depth (.malformed reason rest)) := by
  rw [Refusal.reportedAt]
  split
  · next hFew => exact justifies_call hFew text
  · trivial

theorem reads_readStringWithin (depth : Nat) (rest : Text) :
    Reads 0 depth (.char '"' :: rest) (readStringWithin depth (.char '"' :: rest)) := by
  have h := endsString_readContent (.char '"' :: rest) 0 rest
  unfold readStringWithin readString
  rw [List.drop_one, List.tail_cons]
  cases hRead : readContent (.char '"' :: rest) 0 rest with
  | error refusal =>
      rw [hRead] at h
      obtain ⟨reason, fault, rfl⟩ := h
      exact justifies_reportedAt depth _ reason fault
  | ok found =>
      rw [hRead] at h
      have hBare : bare (.char '"' :: rest) = .char '"' :: .char '"' :: bare found.2 := congrArg _ h
      show Follows 0 found.2 _
      refine ⟨?_, fun level => ?_⟩
      · rw [hBare]
        exact (List.suffix_cons _ _).trans (List.suffix_cons _ _)
      · rw [hBare]
        exact Nat.le_refl _

theorem passes_readConstant? {text after : Text} {value : Json}
    (h : readConstant? text = some (value, after)) : Passes after text := by
  obtain ⟨entry, hEntry, hFound⟩ := List.exists_of_findSome?_eq_some h
  obtain ⟨rest, hWord, hPair⟩ := Option.map_eq_some_iff.mp hFound
  obtain ⟨_, rfl⟩ := Prod.mk.inj hPair
  have hInert : ∀ entry ∈ constants, ∀ c ∈ entry.1, IsInert c := by decide
  unfold dropWord? at hWord
  split at hWord
  · next hPrefix =>
      cases hWord
      obtain ⟨more, rfl⟩ := List.isPrefixOf_iff_prefix.mp hPrefix
      rw [List.drop_left]
      exact ⟨entry.1, hInert entry hEntry, rfl⟩
  · cases hWord

theorem justifies_tooDeep {c : CodePoint} (h : opens c = true) (rest : Text) (excess : Excess) :
    Justifies 0 (c :: rest) (.tooDeep excess) := by
  intro level
  rw [deepest_bare_opens h]
  exact Nat.lt_add_right _ (level_le_deepest (level + 1) (bare rest))

/-- Behind an array or an object that is closed as soon as it is opened. -/
theorem follows_empty {first last : CodePoint} (hOpens : opens first = true) (hCloses : closes last = true)
    {rest after : Text} (hSkip : skipSpace rest = last :: after) : Follows 0 after (first :: rest) :=
  .opens hOpens ((follows_closes hCloses after).trans (follows_of_skipSpace hSkip))

/-- Behind a character between two parts and the blanks on either side of it. -/
theorem follows_separator {c : CodePoint} (h : IsInert c) {before text rest : Text}
    (hBefore : Follows 0 before text) (hSkip : skipSpace before = c :: rest) :
    Follows 0 (skipSpace rest) text :=
  (passes_skipSpace rest).follows.trans
    ((follows_cons h rest).trans ((follows_of_skipSpace hSkip).trans hBefore))

/-- Every part of a text is read up to a rest of it, and refused for another reason than the grammar only
if the text justifies it. -/
theorem reads (steps : Nat) :
    (∀ depth text, Reads 0 depth text (readValue steps depth text)) ∧
    (∀ depth text, Reads 1 depth text (readItems steps depth text)) ∧
    ∀ depth fields text, Reads 1 depth text (readFields steps depth fields text) := by
  induction steps with
  | zero => exact ⟨fun _ _ => trivial, fun _ _ => trivial, fun _ _ _ => trivial⟩
  | succ steps ih =>
      obtain ⟨hValue, hItems, hFields⟩ := ih
      refine ⟨fun depth text => ?_, fun depth text => ?_, fun depth fields text => ?_⟩
      · unfold readValue
        split
        · exact (reads_readStringWithin depth _).map _
        · next rest =>
            cases depth with
            | zero => exact justifies_tooDeep rfl rest .array
            | succ depth =>
                dsimp only
                split
                · next after hSkip => exact follows_empty rfl rfl hSkip
                · exact (((hItems depth _).map _).of_follows (passes_skipSpace rest).follows).opens rfl
        · next rest =>
            cases depth with
            | zero => exact justifies_tooDeep rfl rest .object
            | succ depth =>
                dsimp only
                split
                · next after hSkip => exact follows_empty rfl rfl hSkip
                · exact (((hFields depth _ _).map _).of_follows (passes_skipSpace rest).follows).opens rfl
        · split
          · next found hFound =>
              split
              · next hNone =>
                  rw [hNone.2]
                  exact justifies_call (by decide) text
              · exact (passes_readConstant? hFound).follows
          · exact reads_readNumber depth text
      · unfold readItems
        refine (hValue depth text).bind ?_
        rintro ⟨item, after⟩ hFound
        dsimp only
        split
        · next rest hSkip =>
            exact (follows_closes rfl rest).trans ((follows_of_skipSpace hSkip).trans hFound)
        · next rest hSkip =>
            exact ((hItems depth _).map _).of_follows (follows_separator (by decide) hFound hSkip)
        · exact justifies_reportedAt ..
      · unfold readFields
        split
        · refine (reads_readStringWithin depth _).bind ?_
          rintro ⟨name, afterName⟩ hName
          dsimp only
          split
          · next inside hColon =>
              refine Reads.bind ((hValue depth _).of_follows (follows_separator (by decide) hName hColon)) ?_
              rintro ⟨value, afterValue⟩ hFound
              dsimp only
              split
              · next rest hSkip =>
                  exact (follows_closes rfl rest).trans ((follows_of_skipSpace hSkip).trans hFound)
              · next rest hSkip =>
                  exact (hFields depth _ _).of_follows (follows_separator (by decide) hFound hSkip)
              · exact justifies_reportedAt ..
          · exact justifies_reportedAt ..
        · exact justifies_reportedAt ..

/-! ## Whole texts -/

theorem justifies_of_readAll {depth : Nat} {text : Text} {refusal : Refusal}
    (h : readAll depth text = .error refusal) : Justifies depth text refusal := by
  unfold readAll at h
  split at h
  · cases h
    trivial
  · have hReads := (reads (2 * text.length + 2)).1 depth (skipSpace text)
    cases hValue : readValue (2 * text.length + 2) depth (skipSpace text) with
    | error other =>
        rw [hValue] at h hReads
        cases h
        exact Justifies.of_follows hReads (passes_skipSpace text).follows
    | ok found =>
        rw [hValue] at h
        simp only [bind, Except.bind] at h
        split at h
        · cases h
        · cases h
          trivial

theorem exists_of_readWithin_eq_error {depth : Nat} {text : Text} {error : ReadError}
    (h : readWithin depth text = .error error) :
    ∃ refusal : Refusal, refusal.locate text = error ∧ Justifies depth text refusal := by
  unfold readWithin at h
  cases hAll : readAll depth text with
  | ok value =>
      rw [hAll] at h
      cases h
  | error refusal =>
      rw [hAll] at h
      cases h
      exact ⟨refusal, rfl, justifies_of_readAll hAll⟩

/-- A text that is refused for its depth does not leave the levels that it takes to report a fault. -/
theorem lt_deepest_of_readWithin {depth : Nat} {text : Text} {excess : Excess}
    (h : readWithin depth text = .error (.tooDeep excess)) :
    depth < deepest 0 (bare text) + faultDepth := by
  obtain ⟨refusal, hRefusal, hJustified⟩ := exists_of_readWithin_eq_error h
  cases refusal with
  | malformed reason rest => cases hRefusal
  | hugeInteger digits => cases hRefusal
  | tooDeep found =>
      have hDeep := hJustified 0
      have hNeed := found.need_le
      omega

/-- A text within the limits is read, or refused for its grammar. -/
theorem Moderate.not_beyondLimits {depth : Nat} {text : Text} (h : Moderate depth text) :
    ¬ BeyondLimits depth text := by
  rintro ⟨error, hRead, hLimit⟩
  obtain ⟨refusal, rfl, hJustified⟩ := exists_of_readWithin_eq_error hRead
  cases refusal with
  | malformed reason rest => cases hLimit
  | hugeInteger length =>
      obtain ⟨hLong, numeral, hInfix, hDigits, hLength⟩ := hJustified
      have hShort := h.digits numeral hInfix hDigits
      omega
  | tooDeep excess =>
      have hDeep := lt_deepest_of_readWithin hRead
      have hFlat := h.nesting
      omega

/-- Brackets in strings do not count, and arrays beside each other do not lie deeper. -/
example : deepest 0 (bare "[\"[[\\\"[\", [1], [2]]") = 2 := by decide

/-- An integer that has too many digits is refused for them, where the text is nothing else. -/
theorem readWithin_of_long (depth : Nat) {numeral : Text} (hDigits : ∀ c ∈ numeral, c.isDigit = true)
    (hFirst : numeral.head? ≠ some (.char '0')) (hLong : digitLimit < numeral.length) :
    readWithin depth numeral = .error (.hugeInteger numeral.length) := by
  cases numeral with
  | nil => cases hLong
  | cons c rest =>
      have hDigit := hDigits c List.mem_cons_self
      obtain ⟨hPlain, hSpace, _⟩ := startsNumber (.inl hDigit)
      have hSpan : spanDigits (c :: rest) = (c :: rest, []) := by
        have hEnds : Ends [] := nofun
        have h := spanDigits_of_ends hEnds hDigits
        rw [List.append_nil] at h
        exact h
      have hWhole : readWhole (c :: rest) = some (c :: rest, []) := by
        unfold readWhole
        split
        · next hSame =>
            cases hSame
            exact absurd rfl hFirst
        · next hSame =>
            cases hSame
            rw [if_pos hDigit, hSpan]
        · next hSame => cases hSame
      have hNumber : readNumber (c :: rest) = .error (.hugeInteger (c :: rest).length) := by
        unfold readNumber
        split
        next sign digits hCut =>
        have hUnsigned : digits = c :: rest := by
          split at hCut
          · next hSame =>
              cases hSame
              cases hDigit
          · cases hCut
            rfl
        rw [hUnsigned, hWhole]
        exact if_pos hLong
      have hConstant : readConstant? (c :: rest) = none :=
        readConstant?_eq_none ⟨c, by simp, hDigit⟩
      have hMark : (c :: rest).head? ≠ some (.char '\uFEFF') := by
        rw [List.head?_cons]
        rintro ⟨⟩
        cases hDigit
      rw [readWithin, readAll, if_neg hMark, skipSpace_cons hSpace,
        readValue_number (.inl hDigit) hConstant, hNumber]
      rfl

end ScenarioDesk.Json
