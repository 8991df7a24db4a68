import ScenarioDesk.Proofs.Text.Encoding

/-! Decoding is sound. The pieces of a row of bytes laid end to end are these bytes, the encoding of a
character being its piece. So bytes are decoded exactly if they are the encoding of a text. -/
namespace ScenarioDesk.Utf8

/-- The number with six more bits, those of the next byte of a character. -/
def shiftIn (value : Nat) (b : UInt8) : Nat := value * 0x40 + b.toNat % 0x40

theorem toUInt8_eq {n : Nat} {b : UInt8} (h : n = b.toNat) : n.toUInt8 = b := by
  rw [h]
  exact UInt8.ofNat_toNat

theorem toNat_ofNat {n : Nat} (h : n < 0xD800 ∨ 0xDFFF < n ∧ n < 0x110000) : (Char.ofNat n).toNat = n := by
  rw [Char.ofNat, dif_pos h]
  rfl

/-- The bounds on a second byte, which the first byte may make narrower. -/
theorem toNat_bounds {first second least greatest raised lowered : UInt8} (hRaised : 0x80 ≤ raised)
    (hLowered : lowered ≤ 0xBF) (hLow : (if first = least then raised else 0x80) ≤ second)
    (hHigh : second ≤ if first = greatest then lowered else 0xBF) :
    (0x80 ≤ second.toNat ∧ second.toNat ≤ 0xBF) ∧
      (first.toNat = least.toNat → raised.toNat ≤ second.toNat) ∧
      (first.toNat = greatest.toNat → second.toNat ≤ lowered.toNat) := by
  simp only [UInt8.le_iff_toNat_le, UInt8.reduceToNat] at hRaised hLowered
  refine ⟨⟨?_, ?_⟩, fun hFirst => ?_, fun hFirst => ?_⟩
  · split at hLow
    · exact Nat.le_trans hRaised (UInt8.le_iff_toNat_le.mp hLow)
    · exact UInt8.le_iff_toNat_le.mp hLow
  · split at hHigh
    · exact Nat.le_trans (UInt8.le_iff_toNat_le.mp hHigh) hLowered
    · exact UInt8.le_iff_toNat_le.mp hHigh
  · rw [if_pos (UInt8.toNat_inj.mp hFirst)] at hLow
    exact UInt8.le_iff_toNat_le.mp hLow
  · rw [if_pos (UInt8.toNat_inj.mp hFirst)] at hHigh
    exact UInt8.le_iff_toNat_le.mp hHigh

theorem encodeChar_one {b : UInt8} (h : b.toNat < 0x80) : encodeChar (Char.ofNat b.toNat) = [b] := by
  have hNumber := toNat_ofNat (n := b.toNat) (by omega)
  unfold encodeChar
  dsimp only
  rw [hNumber, if_pos h, toUInt8_eq rfl]

theorem encodeChar_two {first second : UInt8} (hLeast : 0xC2 ≤ first.toNat) (hMost : first.toNat < 0xE0)
    (hLow : 0x80 ≤ second.toNat) (hHigh : second.toNat ≤ 0xBF) :
    encodeChar (Char.ofNat (shiftIn (first.toNat - 0xC0) second)) = [first, second] := by
  unfold shiftIn
  generalize hValue : (first.toNat - 0xC0) * 0x40 + second.toNat % 0x40 = n
  have hNumber := toNat_ofNat (n := n) (by omega)
  unfold encodeChar
  dsimp only
  rw [hNumber, if_neg (by omega), if_pos (by omega),
    toUInt8_eq (n := 0xC0 + n / 0x40) (b := first) (by omega),
    toUInt8_eq (n := 0x80 + n % 0x40) (b := second) (by omega)]

/-- The bounds on the second byte keep the number above those of two bytes and off the surrogates. -/
theorem encodeChar_three {first second third : UInt8} (hLeast : 0xE0 ≤ first.toNat)
    (hMost : first.toNat < 0xF0) (hLow : (if first = 0xE0 then (0xA0 : UInt8) else 0x80) ≤ second)
    (hHigh : second ≤ (if first = 0xED then (0x9F : UInt8) else 0xBF))
    (hThirdLow : 0x80 ≤ third.toNat) (hThirdHigh : third.toNat ≤ 0xBF) :
    encodeChar (Char.ofNat (shiftIn (shiftIn (first.toNat - 0xE0) second) third)) =
      [first, second, third] := by
  obtain ⟨hSecond, hLeastFirst, hGreatestFirst⟩ := toNat_bounds (by decide) (by decide) hLow hHigh
  simp only [UInt8.reduceToNat] at hLeastFirst hGreatestFirst
  unfold shiftIn
  generalize hValue : ((first.toNat - 0xE0) * 0x40 + second.toNat % 0x40) * 0x40 + third.toNat % 0x40 = n
  have hNumber := toNat_ofNat (n := n) (by omega)
  unfold encodeChar
  dsimp only
  rw [hNumber, if_neg (by omega), if_neg (by omega), if_pos (by omega),
    toUInt8_eq (n := 0xE0 + n / 0x1000) (b := first) (by omega),
    toUInt8_eq (n := 0x80 + n / 0x40 % 0x40) (b := second) (by omega),
    toUInt8_eq (n := 0x80 + n % 0x40) (b := third) (by omega)]

/-- The bounds on the second byte keep the number above those of three bytes and within the last
plane. -/
theorem encodeChar_four {first second third fourth : UInt8} (hLeast : 0xF0 ≤ first.toNat)
    (hMost : first.toNat < 0xF5) (hLow : (if first = 0xF0 then (0x90 : UInt8) else 0x80) ≤ second)
    (hHigh : second ≤ (if first = 0xF4 then (0x8F : UInt8) else 0xBF))
    (hThirdLow : 0x80 ≤ third.toNat) (hThirdHigh : third.toNat ≤ 0xBF)
    (hFourthLow : 0x80 ≤ fourth.toNat) (hFourthHigh : fourth.toNat ≤ 0xBF) :
    encodeChar (Char.ofNat (shiftIn (shiftIn (shiftIn (first.toNat - 0xF0) second) third) fourth)) =
      [first, second, third, fourth] := by
  obtain ⟨hSecond, hLeastFirst, hGreatestFirst⟩ := toNat_bounds (by decide) (by decide) hLow hHigh
  simp only [UInt8.reduceToNat] at hLeastFirst hGreatestFirst
  unfold shiftIn
  generalize hValue : (((first.toNat - 0xF0) * 0x40 + second.toNat % 0x40) * 0x40 +
    third.toNat % 0x40) * 0x40 + fourth.toNat % 0x40 = n
  have hNumber := toNat_ofNat (n := n) (by omega)
  unfold encodeChar
  dsimp only
  rw [hNumber, if_neg (by omega), if_neg (by omega), if_neg (by omega),
    toUInt8_eq (n := 0xF0 + n / 0x40000) (b := first) (by omega),
    toUInt8_eq (n := 0x80 + n / 0x1000 % 0x40) (b := second) (by omega),
    toUInt8_eq (n := 0x80 + n / 0x40 % 0x40) (b := third) (by omega),
    toUInt8_eq (n := 0x80 + n % 0x40) (b := fourth) (by omega)]

/-- However a partial character goes on, it will be the character whose bytes have been read. -/
structure Partial.Spells (p : Partial) : Prop where
  missing_pos : 0 < p.missing
  encodeChar_eq : ∀ (b : UInt8) (rest : Bytes), rest.length + 1 = p.missing → p.low ≤ b → b ≤ p.high →
    (∀ other ∈ rest, 0x80 ≤ other.toNat ∧ other.toNat ≤ 0xBF) →
    encodeChar (Char.ofNat (rest.foldl shiftIn (shiftIn p.value b))) = p.seen ++ b :: rest

theorem spells_of_opening {b : UInt8} {p : Partial} (h : opening b = .inr p) :
    p.Spells ∧ p.seen = [b] := by
  unfold opening at h
  split at h
  · cases h
  split at h
  · cases h
  next hOne hNone =>
  simp only [UInt8.lt_iff_toNat_lt, UInt8.reduceToNat] at hOne hNone
  split at h
  · next hTwo =>
      simp only [UInt8.lt_iff_toNat_lt, UInt8.reduceToNat] at hTwo
      cases h
      refine ⟨⟨Nat.one_pos, fun second rest hLength hLow hHigh _ => ?_⟩, rfl⟩
      obtain rfl := List.length_eq_zero_iff.mp (Nat.succ.inj hLength)
      exact encodeChar_two (by omega) hTwo (UInt8.le_iff_toNat_le.mp hLow) (UInt8.le_iff_toNat_le.mp hHigh)
  split at h
  · next hTwo hThree =>
      simp only [UInt8.lt_iff_toNat_lt, UInt8.reduceToNat] at hTwo hThree
      cases h
      refine ⟨⟨Nat.two_pos, fun second rest hLength hLow hHigh hRest => ?_⟩, rfl⟩
      obtain ⟨third, rfl⟩ := List.length_eq_one_iff.mp (Nat.succ.inj hLength)
      obtain ⟨hThirdLow, hThirdHigh⟩ := List.forall_mem_singleton.mp hRest
      exact encodeChar_three (by omega) hThree hLow hHigh hThirdLow hThirdHigh
  split at h
  · next hTwo hThree hFour =>
      simp only [UInt8.lt_iff_toNat_lt, UInt8.reduceToNat] at hTwo hThree hFour
      cases h
      refine ⟨⟨Nat.succ_pos 2, fun second rest hLength hLow hHigh hRest => ?_⟩, rfl⟩
      cases rest with
      | nil => cases hLength
      | cons third last =>
          obtain ⟨fourth, rfl⟩ := List.length_eq_one_iff.mp (Nat.succ.inj (Nat.succ.inj hLength))
          obtain ⟨⟨hThirdLow, hThirdHigh⟩, hLast⟩ := List.forall_mem_cons.mp hRest
          obtain ⟨hFourthLow, hFourthHigh⟩ := List.forall_mem_singleton.mp hLast
          exact encodeChar_four (by omega) hFour hLow hHigh hThirdLow hThirdHigh hFourthLow hFourthHigh
  · cases h

/-- The bytes that a piece was cut from. -/
def Piece.bytes : Piece → Bytes
  | .char c => encodeChar c
  | .bad part _ => part

theorem bytes_of_opening {b : UInt8} {piece : Piece} (h : opening b = .inl piece) : piece.bytes = [b] := by
  unfold opening at h
  split at h
  · next hOne =>
      cases h
      exact encodeChar_one (UInt8.lt_iff_toNat_lt.mp hOne)
  split at h
  · cases h
    rfl
  split at h
  · cases h
  split at h
  · cases h
  split at h
  · cases h
  · cases h
    rfl

/-- A byte that goes on with a partial character completes it or leaves a longer one. -/
theorem Partial.Spells.push {p : Partial} (h : p.Spells) {b : UInt8} (hLow : p.low ≤ b)
    (hHigh : b ≤ p.high) : match p.push b with
      | .inl piece => piece.bytes = p.seen ++ [b]
      | .inr longer => longer.Spells ∧ longer.seen = p.seen ++ [b] := by
  have hPos := h.missing_pos
  unfold Partial.push
  dsimp only
  by_cases hLast : p.missing ≤ 1
  · rw [if_pos hLast]
    exact h.encodeChar_eq b [] (by rw [List.length_nil]; omega) hLow hHigh nofun
  · rw [if_neg hLast]
    refine ⟨⟨by dsimp only; omega, fun other rest hLength hOtherLow hOtherHigh hRest => ?_⟩, rfl⟩
    have hOther := And.intro (UInt8.le_iff_toNat_le.mp hOtherLow) (UInt8.le_iff_toNat_le.mp hOtherHigh)
    have hBounds : ∀ c ∈ other :: rest, 0x80 ≤ c.toNat ∧ c.toNat ≤ 0xBF :=
      List.forall_mem_cons.mpr ⟨hOther, hRest⟩
    have hMissing : (other :: rest).length + 1 = p.missing := by
      dsimp only at hLength
      rw [List.length_cons]
      omega
    have hChar := h.encodeChar_eq b (other :: rest) hMissing hLow hHigh hBounds
    rw [List.append_assoc, List.singleton_append]
    exact hChar

/-- A byte that does not go on with a partial character begins anew behind a bad part. -/
theorem piecesFrom_broken {p : Partial} {b : UInt8} (h : ¬ (p.low ≤ b ∧ b ≤ p.high)) (rest : Bytes) :
    piecesFrom (some p) (b :: rest) = .bad p.seen .continuation :: piecesFrom none (b :: rest) := by
  rw [piecesFrom.eq_def (some p), piecesFrom.eq_def none]
  dsimp only
  rw [if_neg h]

/-- Nothing is lost, doubled or moved where a row of bytes is cut into pieces. -/
theorem flatMap_bytes_piecesFrom (bytes : Bytes) :
    (piecesFrom none bytes).flatMap Piece.bytes = bytes ∧
    ∀ p : Partial, p.Spells → (piecesFrom (some p) bytes).flatMap Piece.bytes = p.seen ++ bytes := by
  induction bytes with
  | nil => exact ⟨rfl, fun p _ => rfl⟩
  | cons b rest ih =>
      obtain ⟨hNone, hSome⟩ := ih
      have hOpening : (piecesFrom none (b :: rest)).flatMap Piece.bytes = b :: rest := by
        rw [piecesFrom]
        cases hFirst : opening b with
        | inl piece =>
            dsimp only
            rw [List.flatMap_cons, bytes_of_opening hFirst, hNone, List.singleton_append]
        | inr p =>
            obtain ⟨hSpells, hSeen⟩ := spells_of_opening hFirst
            dsimp only
            rw [hSome p hSpells, hSeen, List.singleton_append]
      refine ⟨hOpening, fun p hSpells => ?_⟩
      by_cases hBounds : p.low ≤ b ∧ b ≤ p.high
      · have hPush := hSpells.push hBounds.1 hBounds.2
        rw [piecesFrom, if_pos hBounds]
        cases hNext : p.push b with
        | inl piece =>
            rw [hNext] at hPush
            dsimp only at hPush ⊢
            rw [List.flatMap_cons, hPush, hNone, List.append_assoc, List.singleton_append]
        | inr longer =>
            rw [hNext] at hPush
            obtain ⟨hLonger, hSeen⟩ := hPush
            dsimp only
            rw [hSome longer hLonger, hSeen, List.append_assoc, List.singleton_append]
      · rw [piecesFrom_broken hBounds, List.flatMap_cons, hOpening]
        rfl

theorem flatMap_bytes_pieces (bytes : Bytes) : (pieces bytes).flatMap Piece.bytes = bytes :=
  (flatMap_bytes_piecesFrom bytes).1

/-- Where decoding gives a text, all pieces are characters. -/
theorem exists_chars_of_collect {position : Nat} {found : List Piece} {text : Text}
    (h : collect position found = .ok text) :
    ∃ chars : List Char, found = chars.map .char ∧ text = Text.ofChars chars := by
  induction found generalizing position text with
  | nil =>
      cases h
      exact ⟨[], rfl, rfl⟩
  | cons piece rest ih =>
      cases piece with
      | bad part defect => cases h
      | char c =>
          rw [collect] at h
          cases hRest : collect (position + (encodeChar c).length) rest with
          | error fault =>
              rw [hRest] at h
              cases h
          | ok others =>
              rw [hRest] at h
              cases h
              obtain ⟨chars, rfl, rfl⟩ := ih hRest
              exact ⟨c :: chars, rfl, rfl⟩

/-- Bytes are decoded exactly if they are the encoding of a text, which is then the text they give. -/
theorem decode_eq_ok_iff {bytes : Bytes} {text : Text} :
    decode bytes = .ok text ↔ encode text = .ok bytes := by
  refine ⟨fun h => ?_, decode_encode⟩
  obtain ⟨chars, hPieces, rfl⟩ := exists_chars_of_collect h
  have hBytes := flatMap_bytes_pieces bytes
  rw [hPieces, List.flatMap_map] at hBytes
  rw [encode_ofChars, ← hBytes]
  rfl

end ScenarioDesk.Utf8
