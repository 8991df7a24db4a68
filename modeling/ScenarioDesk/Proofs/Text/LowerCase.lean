import Mathlib.Data.List.Forall2
import ScenarioDesk.Proofs.Text.Decoding
import ScenarioDesk.Text.Case

/-! Lower case that is ASCII. The lower case of one character is a given letter of ASCII only for that
letter and its capital, with two exceptions: the lower case of the Kelvin sign is the letter k, and the
lower case of the capital I with a dot begins with the letter i. So a text whose lower case begins with a
word spells the word letter by letter. -/
namespace ScenarioDesk

theorem CodePoint.number_ofNumber {number : Nat} (h : number < 0x110000) :
    (ofNumber number).number = number := by
  unfold ofNumber
  split
  · next hHalf =>
      simp only [CodePoint.number]
      omega
  · next hWhole =>
      simp only [firstHalf] at hWhole
      exact Utf8.toNat_ofNat (by omega)

namespace Text

/-- A run of the table leads beyond ASCII, or it is that of the Kelvin sign. -/
theorem beyond_ascii_of_mem_lowerRuns : ∀ run ∈ lowerRuns,
    (0x80 ≤ run.first + run.shift ∧ run.last + run.shift < 0x110000) ∨
      (run.first = 0x212A ∧ run.last = 0x212A ∧ run.shift = -8383) := by
  decide +kernel

theorem shiftCase_lowerRuns_ne {letter : Char} (hAscii : letter.toNat < 0x80) (hKelvin : letter ≠ 'k')
    {c : CodePoint} (hBeyond : 0x80 ≤ c.number) : shiftCase lowerRuns c ≠ .char letter := by
  unfold shiftCase
  cases hRun : lowerRuns.find? fun run => run.covers c.number with
  | none =>
      rintro rfl
      exact absurd hAscii (Nat.not_lt.mpr hBeyond)
  | some run =>
      have hCovers := List.find?_some hRun
      simp only [CaseRun.covers, Bool.and_eq_true, decide_eq_true_eq] at hCovers
      obtain ⟨⟨hFirst, hLast⟩, _⟩ := hCovers
      dsimp only
      rcases beyond_ascii_of_mem_lowerRuns run (List.mem_of_find?_eq_some hRun) with
        ⟨hLeast, hMost⟩ | ⟨hSign, hOnly, hShift⟩
      · obtain ⟨number, hNumber⟩ := Int.eq_ofNat_of_zero_le (by omega : 0 ≤ c.number + run.shift)
        rw [hNumber, Int.toNat_natCast]
        intro h
        have hEqual := congrArg CodePoint.number h
        rw [CodePoint.number_ofNumber (by omega), CodePoint.number_char] at hEqual
        omega
      · have hNumber : c.number = 0x212A := by omega
        rw [hNumber, hShift]
        intro h
        cases h
        exact hKelvin rfl

/-- Only letters of ASCII have another lower case here. -/
theorem toLower_of_beyond_ascii {c : Char} (h : 0x80 ≤ c.toNat) : c.toLower = c := by
  refine dif_neg fun hUpper => ?_
  have hMost : c.toNat ≤ 90 := hUpper.2
  omega

/-- A letter of ASCII is the lower case of its own two cases only, unless it is the letter k. -/
theorem lowerChar_eq_letter_iff {letter : Char} (hAscii : letter.toNat < 0x80) (hKelvin : letter ≠ 'k')
    {c : CodePoint} : lowerChar c = [.char letter] ↔ ∃ d : Char, c = .char d ∧ d.toLower = letter := by
  cases c with
  | half index => simp [lowerChar]
  | char d =>
      simp only [CodePoint.char.injEq, exists_eq_left']
      rw [lowerChar]
      by_cases hLow : d.toNat < 0x80
      · rw [if_pos hLow]
        simp
      · have hBeyond : 0x80 ≤ d.toNat := Nat.not_lt.mp hLow
        have hOther : d.toLower ≠ letter := by
          rw [toLower_of_beyond_ascii hBeyond]
          rintro rfl
          exact hLow hAscii
        simp only [hOther, iff_false]
        rw [if_neg hLow]
        split
        · simp
        · intro h
          exact shiftCase_lowerRuns_ne (c := .char d) hAscii hKelvin hBeyond (List.singleton_inj.mp h)

/-- The lower case of one character is one character, except for that of the capital I with a dot. -/
theorem lowerChar_cases (c : CodePoint) :
    (∃ d, lowerChar c = [d]) ∨ lowerChar c = [.char 'i', .char '\u0307'] := by
  cases c with
  | half index => exact .inl ⟨_, rfl⟩
  | char c =>
      rw [lowerChar]
      split
      · exact .inl ⟨_, rfl⟩
      · split
        · exact .inr rfl
        · exact .inl ⟨_, rfl⟩

/-- Whether a word begins the lower case of a text is decided letter by letter, whatever stands before the
text, except that the dotted capital I accounts for two letters at once. -/
theorem isPrefixOf_lowerAfter_cons {letter : Char} {word : Text} (hAscii : letter.toNat < 0x80)
    (hDot : letter = 'i' → ∀ others, word.isPrefixOf (.char '\u0307' :: others) = false)
    (before : Text) (c : CodePoint) (rest : Text) :
    (.char letter :: word).isPrefixOf (lowerAfter before (c :: rest)) = true ↔
      lowerChar c = [.char letter] ∧ word.isPrefixOf (lowerAfter (c :: before) rest) = true := by
  by_cases hSigma : c = '\u03A3'
  · have hFinal : letter ≠ '\u03C2' := by
      rintro rfl
      exact absurd hAscii (by decide)
    have hInner : letter ≠ '\u03C3' := by
      rintro rfl
      exact absurd hAscii (by decide)
    have hLower : lowerChar c ≠ [.char letter] := by
      rw [hSigma, show lowerChar (.char '\u03A3') = ['\u03C3'] by decide +kernel]
      simpa using hInner.symm
    rw [lowerAfter, if_pos hSigma, List.singleton_append, List.isPrefixOf_cons_cons]
    simp only [hLower, false_and, iff_false]
    split
    · simp [hFinal]
    · simp [hInner]
  · rw [lowerAfter, if_neg hSigma]
    rcases lowerChar_cases c with ⟨d, hLower⟩ | hLower
    · rw [hLower, List.singleton_append, List.isPrefixOf_cons_cons, Bool.and_eq_true, beq_iff_eq,
        List.singleton_inj, eq_comm]
    · rw [hLower, List.cons_append, List.isPrefixOf_cons_cons, Bool.and_eq_true, beq_iff_eq,
        List.singleton_append, CodePoint.char.injEq]
      simp only [List.cons.injEq, reduceCtorEq, and_false, false_and, iff_false, not_and]
      intro hLetter
      rw [hDot hLetter]
      exact Bool.false_ne_true

/-- Letters of ASCII that are the lower case of their own two cases only, and no i at the end, where the dot
of a capital would be left over. -/
structure IsPlainWord (word : List Char) : Prop where
  letters : ∀ letter ∈ word, letter.toNat < 0x80 ∧ letter ≠ 'k'
  ending : word.getLast? ≠ some 'i'

theorem IsPlainWord.tail {letter : Char} {word : List Char} (h : IsPlainWord (letter :: word)) :
    IsPlainWord word where
  letters := (List.forall_mem_cons.mp h.letters).2
  ending := by
    cases word with
    | nil => exact nofun
    | cons next word =>
        have hEnding := h.ending
        rwa [List.getLast?_cons_cons] at hEnding

/-- The lower case of a text begins with a word exactly if the text begins with characters of which each
has the letter at its place as lower case. -/
theorem isPrefixOf_lowerAfter {word : List Char} (hWord : IsPlainWord word) (before text : Text) :
    (ofChars word).isPrefixOf (lowerAfter before text) = true ↔
      ∃ spelling after, List.Forall₂ (fun letter c => lowerChar c = [.char letter]) word spelling ∧
        text = spelling ++ after := by
  induction word generalizing before text with
  | nil => simp [ofChars]
  | cons letter word ih =>
      obtain ⟨hAscii, _⟩ := hWord.letters letter List.mem_cons_self
      have hDot : letter = 'i' → ∀ others,
          (ofChars word).isPrefixOf (.char '\u0307' :: others) = false := by
        rintro rfl others
        cases word with
        | nil => exact absurd rfl hWord.ending
        | cons next word =>
            obtain ⟨hNext, _⟩ := hWord.tail.letters next List.mem_cons_self
            have hOther : next ≠ '\u0307' := by
              rintro rfl
              exact absurd hNext (by decide)
            rw [ofChars, List.map_cons, List.isPrefixOf_cons_cons]
            simp [hOther]
      cases text with
      | nil =>
          constructor
          · exact nofun
          · rintro ⟨spelling, after, hSpelling, hText⟩
            rw [(List.append_eq_nil_iff.mp hText.symm).1] at hSpelling
            cases hSpelling
      | cons c rest =>
          have hCons : ofChars (letter :: word) = .char letter :: ofChars word := rfl
          rw [hCons, isPrefixOf_lowerAfter_cons hAscii hDot, ih hWord.tail]
          constructor
          · rintro ⟨hLower, spelling, after, hSpelling, rfl⟩
            exact ⟨c :: spelling, after, .cons hLower hSpelling, rfl⟩
          · rintro ⟨spelling, after, hSpelling, hText⟩
            cases hSpelling with
            | cons hLower hOthers =>
                obtain ⟨rfl, rfl⟩ := List.cons.inj hText
                exact ⟨hLower, _, after, hOthers, rfl⟩

end Text

end ScenarioDesk
