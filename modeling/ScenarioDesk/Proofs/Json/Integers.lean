import ScenarioDesk.Proofs.Json.Characters
import ScenarioDesk.Proofs.Json.RoundTrip
import ScenarioDesk.Proofs.Text.Numerals

/-! Integers and truth values that were written are read back. The reader refuses integers with more
digits than its limit, so they have to be short. -/
namespace ScenarioDesk.Json

/-- The integer has no more digits than the reader converts. -/
def IsShort (value : Int) : Prop := value.natAbs < 10 ^ digitLimit

/-- No constant begins like a number. -/
theorem readConstant?_eq_none {text : Text} (h : ∃ c ∈ text.take 2, c.isDigit = true) :
    readConstant? text = none := by
  have hWords : ∀ entry ∈ constants, 2 ≤ entry.1.length ∧ ∀ c ∈ entry.1.take 2, c.isDigit = false := by
    decide
  refine List.findSome?_eq_none_iff.mpr fun entry hEntry => ?_
  obtain ⟨hLength, hLetters⟩ := hWords entry hEntry
  obtain ⟨c, hMem, hDigit⟩ := h
  have hPrefix : entry.1.isPrefixOf text = false := by
    refine Bool.eq_false_iff.mpr fun hPrefix => ?_
    obtain ⟨rest, rfl⟩ := List.isPrefixOf_iff_prefix.mp hPrefix
    rw [List.take_append_of_le_length hLength] at hMem
    rw [hLetters c hMem] at hDigit
    cases hDigit
  simp [dropWord?, hPrefix]

section AfterNumber

variable {rest : Text} (hEnds : Ends rest)
include hEnds

theorem not_isDigit_of_ends : ∀ c ∈ rest.head?, c.isDigit = false := by
  intro c hMem
  rcases hEnds c hMem with rfl | rfl
  · decide
  · decide

theorem readFraction_of_ends : readFraction rest = none := by
  unfold readFraction
  split
  · next more =>
      rcases hEnds _ rfl with hComma | hBreak
      · cases hComma
      · cases hBreak
  · rfl

theorem readPower_of_ends : readPower rest = none := by
  cases rest with
  | nil => rfl
  | cons c more =>
      rcases hEnds c rfl with rfl | rfl
      · rfl
      · rfl

/-- All digits in front of the end are taken. -/
theorem spanDigits_of_ends {digits : Text} (hDigits : ∀ c ∈ digits, c.isDigit = true) :
    spanDigits (digits ++ rest) = (digits, rest) := by
  have hStop : rest.takeWhile CodePoint.isDigit = [] ∧ rest.dropWhile CodePoint.isDigit = rest := by
    cases rest with
    | nil => exact ⟨rfl, rfl⟩
    | cons c more =>
        have hFirst := not_isDigit_of_ends hEnds c rfl
        simp [hFirst]
  rw [spanDigits, List.takeWhile_append_of_pos hDigits, List.dropWhile_append_of_pos hDigits,
    hStop.1, hStop.2, List.append_nil]

theorem readWhole_ofNat (n : Nat) : readWhole (Text.ofNat n ++ rest) = some (Text.ofNat n, rest) := by
  by_cases hZero : n = 0
  · subst hZero
    rw [Text.ofNat_zero]
    rfl
  · obtain ⟨c, more, hText, hDigit, hFirst⟩ := Text.exists_ofNat_eq_cons n
    have hSpan := spanDigits_of_ends hEnds fun c => Text.isDigit_of_mem_ofNat (n := n)
    rw [hText, List.cons_append] at hSpan ⊢
    unfold readWhole
    split
    · next hSame =>
        cases hSame
        exact absurd rfl (hFirst hZero)
    · next hSame =>
        cases hSame
        rw [if_pos hDigit, hSpan]
    · next hSame => cases hSame

theorem readNumber_of_readWhole {text unsigned whole : Text} {negative : Bool}
    (hSign : negative = true ∧ text = .char '-' :: unsigned ∨
      negative = false ∧ text = unsigned ∧ unsigned.head? ≠ some (.char '-'))
    (hWhole : readWhole unsigned = some (whole, rest)) (hLength : whole.length ≤ digitLimit) :
    readNumber text =
      .ok (.int (if negative then -(Text.toNat whole : Int) else Text.toNat whole), rest) := by
  have hShort : ¬ digitLimit < whole.length := Nat.not_lt.mpr hLength
  unfold readNumber
  split
  next sign digits hCut =>
  have hDigits : sign = negative ∧ digits = unsigned := by
    split at hCut
    · cases hCut
      rcases hSign with ⟨rfl, hText⟩ | ⟨_, rfl, hHead⟩
      · cases hText
        exact ⟨rfl, rfl⟩
      · exact absurd rfl hHead
    · next hOther =>
        cases hCut
        rcases hSign with ⟨_, rfl⟩ | ⟨rfl, rfl, _⟩
        · exact absurd rfl (hOther unsigned)
        · exact ⟨rfl, rfl⟩
  obtain ⟨rfl, rfl⟩ := hDigits
  simp only [hWhole, readFraction_of_ends hEnds, readPower_of_ends hEnds, Option.getD_none, hShort,
    if_false, and_self, if_true]

/-- A written integer is read back if it is short. -/
theorem readNumber_ofInt {value : Int} (hShort : IsShort value) :
    readNumber (Text.ofInt value ++ rest) = .ok (.int value, rest) := by
  have hPositive : 0 < digitLimit := by decide
  cases value with
  | ofNat n =>
      have hLength := Text.length_ofNat_le hPositive hShort
      have hHead : (Text.ofNat n ++ rest).head? ≠ some (.char '-') := by
        obtain ⟨c, more, hText, hDigit, _⟩ := Text.exists_ofNat_eq_cons n
        rw [hText, List.cons_append, List.head?_cons]
        rintro ⟨⟩
        cases hDigit
      have h := readNumber_of_readWhole hEnds (.inr ⟨rfl, rfl, hHead⟩) (readWhole_ofNat hEnds n) hLength
      rw [Text.toNat_ofNat] at h
      exact h
  | negSucc n =>
      have hLength := Text.length_ofNat_le hPositive hShort
      have h := readNumber_of_readWhole hEnds (.inl ⟨rfl, rfl⟩) (readWhole_ofNat hEnds (n + 1)) hLength
      rw [Text.toNat_ofNat] at h
      exact h

end AfterNumber

theorem isDigit_ne {c d : CodePoint} (h : c.isDigit = true) (hOther : d.isDigit = false) : c ≠ d := by
  rintro rfl
  rw [h] at hOther
  cases hOther

/-- A sign or a digit is no meaningless character, and no other kind of value begins with it. -/
theorem startsNumber {c : CodePoint} (h : c.isDigit = true ∨ c = '-') :
    IsPlain c ∧ isSpace c = false ∧ c ≠ ']' ∧ c ≠ '"' ∧ c ≠ '[' ∧ c ≠ '\x7b' := by
  rcases h with hDigit | rfl
  · have hNot : ∀ d : CodePoint, d.isDigit = false → c ≠ d := fun d => isDigit_ne hDigit
    refine ⟨?_, ?_, hNot _ rfl, hNot _ rfl, hNot _ rfl, hNot _ rfl⟩
    · simp only [CodePoint.isDigit, Bool.and_eq_true, decide_eq_true_eq] at hDigit
      exact ⟨by omega, by omega⟩
    · simp [isSpace, hNot ' ' rfl, hNot '\t' rfl, hNot '\n' rfl, hNot '\r' rfl]
  · decide

/-- Where no other kind of value begins, a number is read. -/
theorem readValue_number {steps depth : Nat} {c : CodePoint} {text : Text}
    (hFirst : c.isDigit = true ∨ c = '-') (hConstant : readConstant? (c :: text) = none) :
    readValue (steps + 1) depth (c :: text) = readNumber (c :: text) := by
  obtain ⟨_, _, _, hQuote, hArray, hObject⟩ := startsNumber hFirst
  rw [readValue, hConstant]
  · exact fun rest hSame => hQuote (List.head_eq_of_cons_eq hSame)
  · exact fun rest hSame => hArray (List.head_eq_of_cons_eq hSame)
  · exact fun rest hSame => hObject (List.head_eq_of_cons_eq hSame)

/-- How a written integer begins. -/
theorem exists_ofInt_eq_cons (value : Int) : ∃ c rest, Text.ofInt value = c :: rest ∧
    (c.isDigit = true ∨ c = '-') ∧ ∃ d ∈ (c :: rest).take 2, d.isDigit = true := by
  cases value with
  | ofNat n =>
      obtain ⟨c, rest, hText, hDigit, _⟩ := Text.exists_ofNat_eq_cons n
      exact ⟨c, rest, hText, .inl hDigit, c, by simp, hDigit⟩
  | negSucc n =>
      obtain ⟨c, rest, hText, hDigit, _⟩ := Text.exists_ofNat_eq_cons (n + 1)
      refine ⟨.char '-', c :: rest, ?_, .inr rfl, c, by simp, hDigit⟩
      rw [Text.ofInt, hText]

theorem readsBack_int (depth : Nat) {value : Int} (h : IsShort value) : ReadsBack depth (.int value) := by
  obtain ⟨c, more, hText, hFirst, d, hMem, hDigit⟩ := exists_ofInt_eq_cons value
  obtain ⟨hPlain, hSpace, hBracket, _⟩ := startsNumber hFirst
  constructor
  · intro level
    rw [renderAt, hText]
    exact ⟨c, more, rfl, hPlain, hSpace, hBracket⟩
  · intro level steps rest hSteps hEnds
    obtain ⟨steps, rfl⟩ := Nat.exists_eq_succ_of_ne_zero (Nat.ne_zero_of_lt hSteps)
    have hNumber := readNumber_ofInt hEnds h
    have hTake : ∃ e ∈ (c :: (more ++ rest)).take 2, e.isDigit = true := by
      refine ⟨d, ?_, hDigit⟩
      rw [← List.cons_append, List.take_append]
      exact List.mem_append_left _ hMem
    rw [renderAt, hText, List.cons_append, readValue_number hFirst (readConstant?_eq_none hTake)]
    rwa [hText, List.cons_append] at hNumber

theorem readsBack_bool (depth : Nat) (value : Bool) : ReadsBack depth (.bool value) := by
  constructor
  · intro level
    cases value with
    | true => exact ⟨.char 't', "rue", rfl, by decide, by decide, by decide⟩
    | false => exact ⟨.char 'f', "alse", rfl, by decide, by decide, by decide⟩
  · intro level steps rest hSteps hEnds
    obtain ⟨steps, rfl⟩ := Nat.exists_eq_succ_of_ne_zero (Nat.ne_zero_of_lt hSteps)
    cases value with
    | true => rfl
    | false => rfl

section Written

variable {allowed : CodePoint → Prop} (hLayout : AllowsLayout allowed)
include hLayout

theorem writtenWith_int (value : Int) : WrittenWith allowed (.int value) := by
  intro level c hMem
  rw [renderAt] at hMem
  have hFirst : c.isDigit = true ∨ c = '-' := by
    cases value with
    | ofNat n => exact .inl (Text.isDigit_of_mem_ofNat hMem)
    | negSucc n =>
        rcases List.mem_cons.mp hMem with rfl | hDigits
        · exact .inr rfl
        · exact .inl (Text.isDigit_of_mem_ofNat hDigits)
  exact hLayout c (.inr (startsNumber hFirst).1)

theorem writtenWith_bool (value : Bool) : WrittenWith allowed (.bool value) := by
  intro level c hMem
  cases value with
  | true =>
      have hWord : ∀ c ∈ ("true" : Text), IsPlain c := by decide
      exact allowed_of_mem_plain hLayout hWord hMem
  | false =>
      have hWord : ∀ c ∈ ("false" : Text), IsPlain c := by decide
      exact allowed_of_mem_plain hLayout hWord hMem

end Written

end ScenarioDesk.Json
