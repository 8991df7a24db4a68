import ScenarioDesk.Proofs.Text.Newlines
import ScenarioDesk.Text.FileText

/-! Text read back from its encoding. Decoding cuts the bytes of a text at the bounds of its characters
and finds no bad part, so a file that the program wrote is read by the first of the three rules. -/
namespace ScenarioDesk

namespace Utf8

theorem toNat_toUInt8 {n : Nat} (h : n < 256) : n.toUInt8.toNat = n := by
  simp only [UInt8.toNat_ofNat']
  omega

theorem valid_toNat (c : Char) : c.toNat < 0xD800 ∨ 0xDFFF < c.toNat ∧ c.toNat < 0x110000 := by
  have hValid := c.valid
  simp only [UInt32.isValidChar, Nat.isValidChar] at hValid
  simp only [Char.toNat]
  omega

/-- The last byte of a character completes its number. -/
theorem piecesFrom_last {p : Partial} {b : UInt8} (hMissing : p.missing = 1) (hLow : p.low ≤ b)
    (hHigh : b ≤ p.high) (rest : Bytes) :
    piecesFrom (some p) (b :: rest) =
      .char (Char.ofNat (p.value * 0x40 + b.toNat % 0x40)) :: piecesFrom none rest := by
  have hPush : p.push b = .inl (.char (Char.ofNat (p.value * 0x40 + b.toNat % 0x40))) := by
    simp only [Partial.push, hMissing, Nat.le_refl, if_true]
  rw [piecesFrom, if_pos ⟨hLow, hHigh⟩, hPush]

/-- A byte before the last adds six bits to the number. -/
theorem piecesFrom_more {p : Partial} {b : UInt8} (hMissing : 1 < p.missing) (hLow : p.low ≤ b)
    (hHigh : b ≤ p.high) (rest : Bytes) :
    piecesFrom (some p) (b :: rest) =
      piecesFrom (some ⟨p.seen ++ [b], p.value * 0x40 + b.toNat % 0x40, p.missing - 1, 0x80, 0xBF⟩)
        rest := by
  have hPush : p.push b =
      .inr ⟨p.seen ++ [b], p.value * 0x40 + b.toNat % 0x40, p.missing - 1, 0x80, 0xBF⟩ := by
    simp only [Partial.push, if_neg (Nat.not_le.mpr hMissing)]
  rw [piecesFrom, if_pos ⟨hLow, hHigh⟩, hPush]

theorem piecesFrom_one {b : UInt8} (h : b.toNat < 0x80) (rest : Bytes) :
    piecesFrom none (b :: rest) = .char (Char.ofNat b.toNat) :: piecesFrom none rest := by
  rw [piecesFrom, opening, if_pos (UInt8.lt_iff_toNat_lt.mpr h)]

theorem not_lt_of_toNat_le {a b : UInt8} (h : a.toNat ≤ b.toNat) : ¬ b < a := by
  rw [UInt8.lt_iff_toNat_lt]
  omega

theorem piecesFrom_two {b : UInt8} (hLeast : 0xC2 ≤ b.toNat) (hMost : b.toNat < 0xE0)
    (rest : Bytes) :
    piecesFrom none (b :: rest) =
      piecesFrom (some ⟨[b], b.toNat - 0xC0, 1, 0x80, 0xBF⟩) rest := by
  have hOne : ¬ b < 0x80 := not_lt_of_toNat_le (by simp only [UInt8.reduceToNat]; omega)
  have hNone : ¬ b < 0xC2 := not_lt_of_toNat_le hLeast
  rw [piecesFrom, opening, if_neg hOne, if_neg hNone, if_pos (UInt8.lt_iff_toNat_lt.mpr hMost)]

theorem piecesFrom_three {b : UInt8} (hLeast : 0xE0 ≤ b.toNat) (hMost : b.toNat < 0xF0)
    (rest : Bytes) :
    piecesFrom none (b :: rest) =
      piecesFrom (some ⟨[b], b.toNat - 0xE0, 2, if b = 0xE0 then 0xA0 else 0x80,
        if b = 0xED then 0x9F else 0xBF⟩) rest := by
  have hOne : ¬ b < 0x80 := not_lt_of_toNat_le (by simp only [UInt8.reduceToNat]; omega)
  have hNone : ¬ b < 0xC2 := not_lt_of_toNat_le (by simp only [UInt8.reduceToNat]; omega)
  have hTwo : ¬ b < 0xE0 := not_lt_of_toNat_le hLeast
  rw [piecesFrom, opening, if_neg hOne, if_neg hNone, if_neg hTwo,
    if_pos (UInt8.lt_iff_toNat_lt.mpr hMost)]

theorem piecesFrom_four {b : UInt8} (hLeast : 0xF0 ≤ b.toNat) (hMost : b.toNat < 0xF5)
    (rest : Bytes) :
    piecesFrom none (b :: rest) =
      piecesFrom (some ⟨[b], b.toNat - 0xF0, 3, if b = 0xF0 then 0x90 else 0x80,
        if b = 0xF4 then 0x8F else 0xBF⟩) rest := by
  have hOne : ¬ b < 0x80 := not_lt_of_toNat_le (by simp only [UInt8.reduceToNat]; omega)
  have hNone : ¬ b < 0xC2 := not_lt_of_toNat_le (by simp only [UInt8.reduceToNat]; omega)
  have hTwo : ¬ b < 0xE0 := not_lt_of_toNat_le (by simp only [UInt8.reduceToNat]; omega)
  have hThree : ¬ b < 0xF0 := not_lt_of_toNat_le hLeast
  rw [piecesFrom, opening, if_neg hOne, if_neg hNone, if_neg hTwo, if_neg hThree,
    if_pos (UInt8.lt_iff_toNat_lt.mpr hMost)]

theorem continuation_bounds {b : UInt8} {n : Nat} (h : b.toNat = 0x80 + n % 0x40) :
    (0x80 : UInt8) ≤ b ∧ b ≤ 0xBF := by
  simp only [UInt8.le_iff_toNat_le, UInt8.reduceToNat]
  omega

/-- The second of three bytes lies above the long forms and below the surrogates. -/
theorem second_bounds_three {first second : UInt8} {n : Nat} (hLeast : 0x800 ≤ n)
    (hValid : n < 0xD800 ∨ 0xDFFF < n) (hMost : n < 0x10000)
    (hFirst : first.toNat = 0xE0 + n / 0x1000) (hSecond : second.toNat = 0x80 + n / 0x40 % 0x40) :
    (if first = 0xE0 then (0xA0 : UInt8) else 0x80) ≤ second ∧
      second ≤ (if first = 0xED then (0x9F : UInt8) else 0xBF) := by
  simp only [← UInt8.toNat_inj, hFirst, UInt8.reduceToNat]
  constructor
  · split <;> simp only [UInt8.le_iff_toNat_le, UInt8.reduceToNat] <;> omega
  · split <;> simp only [UInt8.le_iff_toNat_le, UInt8.reduceToNat] <;> omega

/-- The second of four bytes lies above the long forms and within the last plane. -/
theorem second_bounds_four {first second : UInt8} {n : Nat} (hLeast : 0x10000 ≤ n)
    (hMost : n < 0x110000) (hFirst : first.toNat = 0xF0 + n / 0x40000)
    (hSecond : second.toNat = 0x80 + n / 0x1000 % 0x40) :
    (if first = 0xF0 then (0x90 : UInt8) else 0x80) ≤ second ∧
      second ≤ (if first = 0xF4 then (0x8F : UInt8) else 0xBF) := by
  simp only [← UInt8.toNat_inj, hFirst, UInt8.reduceToNat]
  constructor
  · split <;> simp only [UInt8.le_iff_toNat_le, UInt8.reduceToNat] <;> omega
  · split <;> simp only [UInt8.le_iff_toNat_le, UInt8.reduceToNat] <;> omega

/-- The bytes of a character are one piece, whatever follows them. -/
theorem piecesFrom_encodeChar (c : Char) (rest : Bytes) :
    piecesFrom none (encodeChar c ++ rest) = .char c :: piecesFrom none rest := by
  have hValid := valid_toNat c
  unfold encodeChar
  dsimp only
  generalize hn : c.toNat = n at hValid ⊢
  have hc : ∀ m, m = n → Char.ofNat m = c := by
    rintro m rfl
    rw [← hn, Char.ofNat_toNat]
  have hLast := toNat_toUInt8 (n := 0x80 + n % 0x40) (by omega)
  have hThird := toNat_toUInt8 (n := 0x80 + n / 0x40 % 0x40) (by omega)
  split
  · next hOne =>
      have hFirst := toNat_toUInt8 (n := n) (by omega)
      rw [List.cons_append, List.nil_append, piecesFrom_one (by omega), hc _ hFirst]
  split
  · next hOne hTwo =>
      have hFirst := toNat_toUInt8 (n := 0xC0 + n / 0x40) (by omega)
      obtain ⟨hLow, hHigh⟩ := continuation_bounds hLast
      rw [List.cons_append, List.cons_append, List.nil_append,
        piecesFrom_two (by omega) (by omega), piecesFrom_last rfl hLow hHigh, hc]
      simp only [hFirst, hLast]
      omega
  split
  · next hOne hTwo hThree =>
      have hFirst := toNat_toUInt8 (n := 0xE0 + n / 0x1000) (by omega)
      obtain ⟨hSecondLow, hSecondHigh⟩ :=
        second_bounds_three (by omega) (by omega) hThree hFirst hThird
      obtain ⟨hLow, hHigh⟩ := continuation_bounds hLast
      simp only [List.cons_append, List.nil_append]
      rw [piecesFrom_three (by omega) (by omega), piecesFrom_more (Nat.lt_succ_self 1) hSecondLow hSecondHigh,
        piecesFrom_last rfl hLow hHigh, hc]
      simp only [hFirst, hThird, hLast]
      omega
  · next hOne hTwo hThree =>
      have hFirst := toNat_toUInt8 (n := 0xF0 + n / 0x40000) (by omega)
      have hSecond := toNat_toUInt8 (n := 0x80 + n / 0x1000 % 0x40) (by omega)
      obtain ⟨hSecondLow, hSecondHigh⟩ :=
        second_bounds_four (by omega) (by omega) hFirst hSecond
      obtain ⟨hThirdLow, hThirdHigh⟩ := continuation_bounds hThird
      obtain ⟨hLow, hHigh⟩ := continuation_bounds hLast
      simp only [List.cons_append, List.nil_append]
      rw [piecesFrom_four (by omega) (by omega),
        piecesFrom_more (by show 1 < 3; decide) hSecondLow hSecondHigh,
        piecesFrom_more (Nat.lt_succ_self 1) hThirdLow hThirdHigh, piecesFrom_last rfl hLow hHigh, hc]
      simp only [hFirst, hSecond, hThird, hLast]
      omega

/-- The bytes of no character begin as those of another one do. -/
theorem encodeChar_append_inj {c d : Char} {first second : Bytes}
    (h : encodeChar c ++ first = encodeChar d ++ second) : c = d ∧ first = second := by
  have hPieces := congrArg (piecesFrom none) h
  rw [piecesFrom_encodeChar, piecesFrom_encodeChar] at hPieces
  obtain rfl : c = d := Piece.char.inj (List.cons.inj hPieces).1
  exact ⟨rfl, List.append_cancel_left h⟩

theorem pieces_encode (chars : List Char) :
    pieces (chars.flatMap encodeChar) = chars.map Piece.char := by
  induction chars with
  | nil => rfl
  | cons c rest ih =>
      rw [List.flatMap_cons, List.map_cons, ← ih]
      exact piecesFrom_encodeChar c _

theorem collect_chars (position : Nat) (chars : List Char) :
    collect position (chars.map Piece.char) = .ok (Text.ofChars chars) := by
  induction chars generalizing position with
  | nil => rfl
  | cons c rest ih =>
      rw [List.map_cons, collect, ih]
      rfl

theorem exists_ofChars {text : Text} (h : text.isWhole = true) :
    ∃ chars, text = Text.ofChars chars := by
  induction text with
  | nil => exact ⟨[], rfl⟩
  | cons c rest ih =>
      simp only [Text.isWhole, List.all_cons, Bool.and_eq_true] at h
      obtain ⟨chars, hRest⟩ := ih h.2
      cases c with
      | half index => simp [CodePoint.isHalf] at h
      | char c => exact ⟨c :: chars, by rw [hRest]; rfl⟩

/-- Decoding the bytes of a text gives the text back. -/
theorem decode_encode {text : Text} {content : Bytes} (h : encode text = .ok content) :
    decode content = .ok text := by
  have hWhole : text.isWhole = true := by rw [← isOk_encode, h]; rfl
  obtain ⟨chars, rfl⟩ := exists_ofChars hWhole
  rw [encode_ofChars] at h
  cases h
  rw [decode, pieces_encode, collect_chars]

end Utf8

namespace FileText

/-- The text without the byte order mark in front of it, if it has one. -/
def withoutMark : Text → Text
  | .char '\uFEFF' :: rest => rest
  | text => text

theorem withoutMark_of_ne {text : Text} (h : text.head? ≠ some (.char '\uFEFF')) : withoutMark text = text := by
  unfold withoutMark
  split
  · exact absurd rfl h
  · rfl

/-- What is written is decoded as UTF-8. Its bytes begin as the mark does, or end within the mark, only if
its first character is the mark. -/
theorem decodeMarked_encode {text : Text} {content : Bytes} (h : Utf8.encode text = .ok content) :
    decodeMarked content = .ok (withoutMark text) := by
  have hWhole : text.isWhole = true := by rw [← Utf8.isOk_encode, h]; rfl
  obtain ⟨chars, rfl⟩ := Utf8.exists_ofChars hWhole
  have hContent := (Utf8.encode_ofChars chars).symm.trans h
  cases hContent
  have hMark : byteOrderMark = Utf8.encodeChar '\uFEFF' := by decide
  cases chars with
  | nil => rfl
  | cons c rest =>
      unfold decodeMarked
      by_cases hFirst : c = '\uFEFF'
      · rw [hFirst, List.flatMap_cons, ← hMark]
        have hLong : ¬ (byteOrderMark ++ rest.flatMap Utf8.encodeChar).length < 3 := by simp [byteOrderMark]
        have hBegins := List.isPrefixOf_iff_prefix.mpr
          (List.prefix_append byteOrderMark (rest.flatMap Utf8.encodeChar))
        rw [if_neg fun hShort => hLong hShort.1, if_pos hBegins]
        exact Utf8.decode_encode (Utf8.encode_ofChars rest)
      · have hWithin : ¬ ((c :: rest).flatMap Utf8.encodeChar).isPrefixOf byteOrderMark = true := by
          rw [List.isPrefixOf_iff_prefix, List.flatMap_cons, hMark]
          rintro ⟨others, hBytes⟩
          rw [List.append_assoc, ← List.append_nil (Utf8.encodeChar '\uFEFF')] at hBytes
          exact hFirst (Utf8.encodeChar_append_inj hBytes).1
        have hBegins : ¬ byteOrderMark.isPrefixOf ((c :: rest).flatMap Utf8.encodeChar) = true := by
          rw [List.isPrefixOf_iff_prefix, List.flatMap_cons, hMark]
          rintro ⟨others, hBytes⟩
          exact hFirst (Utf8.encodeChar_append_inj hBytes).1.symm
        rw [if_neg fun hShort => hWithin hShort.2, if_neg hBegins, Utf8.decode_encode h, withoutMark_of_ne]
        intro hHead
        exact hFirst (CodePoint.char.inj (Option.some.inj hHead))

/-- What is written is read back with line feeds as its only line ends and without the mark in front. -/
theorem read_encode {text : Text} {content : Bytes} (h : Utf8.encode text = .ok content) :
    read content = Text.normalizeNewlines (withoutMark text) := by
  rw [read, decodeAny, decodeMarked_encode h]
  exact Text.universalNewlines_eq_normalizeNewlines _

/-- A text is read back as it was exactly if it holds no carriage return and no mark stands in front. -/
theorem read_encode_eq_self_iff {text : Text} {content : Bytes} (h : Utf8.encode text = .ok content) :
    read content = text ↔ .char '\r' ∉ text ∧ text.head? ≠ some (.char '\uFEFF') := by
  rw [read_encode h]
  constructor
  · intro hSame
    have hReturn : .char '\r' ∉ text := by
      rw [← hSame]
      exact Text.return_not_mem_normalizeNewlines _
    refine ⟨hReturn, fun hHead => ?_⟩
    obtain ⟨rest, rfl⟩ := List.head?_eq_some_iff.mp hHead
    have hRest : Text.normalizeNewlines rest = rest :=
      Text.normalizeNewlines_eq_self (List.not_mem_of_not_mem_cons hReturn)
    exact List.cons_ne_self _ _ (hSame.symm.trans hRest)
  · rintro ⟨hReturn, hHead⟩
    rw [withoutMark_of_ne hHead, Text.normalizeNewlines_eq_self hReturn]

/-- A stored text that begins with a character of ASCII and holds no carriage return is read back as
it is. -/
theorem read_of_encode {c : Char} {rest : Text} {content : Bytes} (hFirst : c.toNat < 0x80)
    (hReturn : .char '\r' ∉ (.char c :: rest : Text))
    (h : Utf8.encode (.char c :: rest) = .ok content) : read content = .char c :: rest := by
  refine (read_encode_eq_self_iff h).mpr ⟨hReturn, ?_⟩
  rintro ⟨⟩
  exact absurd hFirst (by decide)

end FileText

end ScenarioDesk
