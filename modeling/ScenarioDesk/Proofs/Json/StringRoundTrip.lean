import ScenarioDesk.Json.Printer
import ScenarioDesk.Json.Reader

/-! Strings that were written are read back. Every code point is written as itself or as one escape, so
the reader meets the content one written code point at a time, whatever the content holds: quotes,
backslashes, controls, or halves of surrogate pairs. -/
namespace ScenarioDesk.Json

theorem hexValue_digitChar : ∀ d < 16, hexValue (.char (Nat.digitChar d)) = some d := by decide

/-- Four digits in base sixteen give their number back, if something follows them. -/
theorem hexCode_hexPadded {n : Nat} (h : n < 0x10000) (c : CodePoint) (rest : Text) :
    hexCode (Text.hexPadded 4 n ++ c :: rest) = some n := by
  simp only [Text.hexPadded, List.nil_append, List.cons_append, hexCode]
  rw [hexValue_digitChar _ (Nat.mod_lt _ (by decide)), hexValue_digitChar _ (Nat.mod_lt _ (by decide)),
    hexValue_digitChar _ (Nat.mod_lt _ (by decide)), hexValue_digitChar _ (Nat.mod_lt _ (by decide))]
  show some _ = some n
  congr 1
  omega

theorem escapedCode_number {c : CodePoint} (h : c.number < 0x20) (digits : Text) :
    escapedCode c.number digits = (c, 4) := by
  have hHigh : isHighHalf c.number = false := by
    rw [isHighHalf, Bool.and_eq_false_iff]
    exact .inl (decide_eq_false (by omega))
  rw [escapedCode, hHigh]
  show (CodePoint.ofNumber c.number, 4) = (c, 4)
  rw [CodePoint.ofNumber_number]

/-- The reader's answer with one more code point in front of the content. -/
def prepend (c : CodePoint) (found : Text × Text) : Text × Text := (c :: found.1, found.2)

theorem readContent_escape {opening rest : Text} {meant : CodePoint} {width : Nat}
    (h : readEscape opening (.char '\\' :: rest) = .ok (meant, width)) :
    readContent opening 0 (.char '\\' :: rest) =
      (readContent opening width rest).map (prepend meant) := by
  rw [readContent, if_neg (by decide), if_pos rfl, h]
  change Except.bind (readContent opening width rest) _ = _
  cases readContent opening width rest with
  | ok found => rfl
  | error refusal => rfl

theorem readContent_length_append (opening front rest : Text) :
    readContent opening front.length (front ++ rest) = readContent opening 0 rest := by
  induction front with
  | nil => rfl
  | cons c front ih =>
      rw [List.length_cons, List.cons_append, readContent]
      exact ih

theorem readContent_letter (letter : Char) {meant : Char} (hLetter : letterEscape letter = some meant)
    (hCode : letter ≠ 'u') (opening rest : Text) :
    readContent opening 0 (.char '\\' :: .char letter :: rest) =
      (readContent opening 0 rest).map (prepend (.char meant)) := by
  have hEscape : readEscape opening (.char '\\' :: .char letter :: rest) = .ok (.char meant, 1) := by
    rw [readEscape, List.drop_succ_cons, List.drop_zero]
    split
    · next hText => cases hText
    · next hText =>
        cases hText
        exact absurd rfl hCode
    · next hText =>
        cases hText
        rw [hLetter]
    · next hText => cases hText
  rw [readContent_escape hEscape]
  exact congrArg _ (readContent_length_append opening [.char letter] rest)

theorem readContent_code {c : CodePoint} (h : c.number < 0x20) {opening rest : Text}
    (hRest : rest ≠ []) :
    readContent opening 0 (.char '\\' :: .char 'u' :: (Text.hexPadded 4 c.number ++ rest)) =
      (readContent opening 0 rest).map (prepend c) := by
  obtain ⟨d, others, rfl⟩ := List.exists_cons_of_ne_nil hRest
  have hEscape : readEscape opening
      (.char '\\' :: .char 'u' :: (Text.hexPadded 4 c.number ++ d :: others)) = .ok (c, 5) := by
    have hCode := @hexCode_hexPadded c.number (by omega) d others
    simp only [readEscape, List.drop_succ_cons, List.drop_zero, hCode]
    rw [escapedCode_number h]
  rw [readContent_escape hEscape]
  exact congrArg _
    (readContent_length_append opening (.char 'u' :: Text.hexPadded 4 c.number) (d :: others))

theorem readContent_self {c : CodePoint} (hQuote : c ≠ '"') (hSlash : c ≠ '\\')
    (hControl : 0x20 ≤ c.number) (opening rest : Text) :
    readContent opening 0 (c :: rest) = (readContent opening 0 rest).map (prepend c) := by
  rw [readContent, if_neg hQuote, if_neg hSlash, if_neg (by omega)]
  cases readContent opening 0 rest with
  | ok found => rfl
  | error refusal => rfl

/-- A written code point is read back, if the string goes on after it. -/
theorem readContent_renderChar (c : CodePoint) {opening rest : Text} (hRest : rest ≠ []) :
    readContent opening 0 (renderChar c ++ rest) = (readContent opening 0 rest).map (prepend c) := by
  unfold renderChar
  split
  · exact readContent_letter '"' rfl (by decide) opening rest
  · exact readContent_letter '\\' rfl (by decide) opening rest
  · exact readContent_letter 'n' rfl (by decide) opening rest
  · exact readContent_letter 'r' rfl (by decide) opening rest
  · exact readContent_letter 't' rfl (by decide) opening rest
  · exact readContent_letter 'f' rfl (by decide) opening rest
  · exact readContent_letter 'b' rfl (by decide) opening rest
  · next hQuote hSlash _ _ _ _ _ =>
      split
      · next hControl => exact readContent_code hControl hRest
      · next hControl => exact readContent_self hQuote hSlash (by omega) opening rest

/-- Written content is read back up to its closing quote. -/
theorem readContent_flatMap (opening content rest : Text) :
    readContent opening 0 (content.flatMap renderChar ++ .char '"' :: rest) = .ok (content, rest) := by
  induction content with
  | nil =>
      rw [List.flatMap_nil, List.nil_append, readContent, if_pos rfl]
  | cons c content ih =>
      rw [List.flatMap_cons, List.append_assoc, readContent_renderChar c (by simp), ih]
      rfl

/-- A written string is read back, and what follows it is left. -/
theorem readString_renderString (content rest : Text) :
    readString (renderString content ++ rest) = .ok (content, rest) := by
  have hText : renderString content ++ rest =
      .char '"' :: (content.flatMap renderChar ++ .char '"' :: rest) := by
    rw [renderString, List.append_assoc]
    rfl
  rw [hText, readString, List.drop_succ_cons, List.drop_zero, readContent_flatMap]

/-- A character of ASCII from the space on. -/
def IsPlain (c : CodePoint) : Prop := 0x20 ≤ c.number ∧ c.number < 0x80

instance (c : CodePoint) : Decidable (IsPlain c) := inferInstanceAs (Decidable (_ ∧ _))

theorem isPlain_of_mem_hexPadded {width n : Nat} {c : CodePoint} (h : c ∈ Text.hexPadded width n) :
    IsPlain c := by
  have hDigit : ∀ d < 16, IsPlain (.char (Nat.digitChar d)) := by decide
  induction width generalizing n with
  | zero => cases h
  | succ width ih =>
      rcases List.mem_append.mp h with hFront | hLast
      · exact ih hFront
      · rw [List.mem_singleton.mp hLast]
        exact hDigit (n % 16) (Nat.mod_lt _ (by decide))

theorem isPlain_of_mem_escape {letter : Char} (hLetter : IsPlain (.char letter)) {c : CodePoint}
    (h : c ∈ Text.ofChars ['\\', letter]) : IsPlain c := by
  rcases List.mem_cons.mp h with rfl | hLast
  · decide
  · rw [List.mem_singleton.mp hLast]
    exact hLetter

/-- A code point is written as itself if it comes from the space on, and otherwise with plain
characters only. -/
theorem mem_renderChar {c written : CodePoint} (h : written ∈ renderChar c) :
    IsPlain written ∨ written = c ∧ 0x20 ≤ c.number := by
  unfold renderChar at h
  split at h
  · exact .inl (isPlain_of_mem_escape (by decide : IsPlain (.char '"')) h)
  · exact .inl (isPlain_of_mem_escape (by decide : IsPlain (.char '\\')) h)
  · exact .inl (isPlain_of_mem_escape (by decide : IsPlain (.char 'n')) h)
  · exact .inl (isPlain_of_mem_escape (by decide : IsPlain (.char 'r')) h)
  · exact .inl (isPlain_of_mem_escape (by decide : IsPlain (.char 't')) h)
  · exact .inl (isPlain_of_mem_escape (by decide : IsPlain (.char 'f')) h)
  · exact .inl (isPlain_of_mem_escape (by decide : IsPlain (.char 'b')) h)
  · split at h
    · rcases List.mem_append.mp h with hFront | hDigits
      · exact .inl (isPlain_of_mem_escape (by decide : IsPlain (.char 'u')) hFront)
      · exact .inl (isPlain_of_mem_hexPadded hDigits)
    · rw [List.mem_singleton.mp h]
      exact .inr ⟨rfl, by omega⟩

end ScenarioDesk.Json
