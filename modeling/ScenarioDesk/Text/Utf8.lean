import ScenarioDesk.Text.Quoted

/-!
UTF-8. Encoding refuses a text that holds half of a surrogate pair on its own. Decoding cuts a row of
bytes into pieces, each a character or a maximal part that no character begins or continues with;
strict decoding stops at the first bad part, lossy decoding puts the replacement character for each
of them.
-/

namespace ScenarioDesk

/-- The content of a file. -/
abbrev Bytes := List UInt8

namespace Utf8

/-- The bytes of one character, one to four of them. -/
def encodeChar (c : Char) : Bytes :=
  let n := c.toNat
  if n < 0x80 then [n.toUInt8]
  else if n < 0x800 then [(0xC0 + n / 0x40).toUInt8, (0x80 + n % 0x40).toUInt8]
  else if n < 0x10000 then
    [(0xE0 + n / 0x1000).toUInt8, (0x80 + n / 0x40 % 0x40).toUInt8, (0x80 + n % 0x40).toUInt8]
  else
    [(0xF0 + n / 0x40000).toUInt8, (0x80 + n / 0x1000 % 0x40).toUInt8,
      (0x80 + n / 0x40 % 0x40).toUInt8, (0x80 + n % 0x40).toUInt8]

/-- The halves in front of a text. -/
def halvesInFront (text : Text) : Text := text.takeWhile CodePoint.isHalf

/-- The first halves of a text, which lie side by side, and where the first of them stands. -/
structure Unencodable where
  position : Nat
  halves : Text
  deriving DecidableEq, Repr

/-- The bytes of a text that begins at a position. -/
def encodeFrom : (position : Nat) → Text → Except Unencodable Bytes
  | _, [] => .ok []
  | position, .char c :: rest => (encodeFrom (position + 1) rest).map (encodeChar c ++ ·)
  | position, .half index :: rest => .error ⟨position, .half index :: halvesInFront rest⟩

/-- The bytes of a text, or the first halves that it holds. -/
def encode (text : Text) : Except Unencodable Bytes := encodeFrom 0 text

/-- How many bytes a text takes. A half counts three, as the characters next to it in number do. -/
def size : Text → Nat
  | [] => 0
  | .char c :: rest => (encodeChar c).length + size rest
  | .half _ :: rest => 3 + size rest

theorem encodeFrom_ofChars (position : Nat) (chars : List Char) :
    encodeFrom position (Text.ofChars chars) = .ok (chars.flatMap encodeChar) := by
  induction chars generalizing position with
  | nil => rfl
  | cons c rest ih =>
    have h : encodeFrom position (Text.ofChars (c :: rest)) =
        (encodeFrom (position + 1) (Text.ofChars rest)).map (encodeChar c ++ ·) := rfl
    rw [h, ih]
    rfl

theorem isOk_encodeFrom (position : Nat) (text : Text) :
    (encodeFrom position text).isOk = text.isWhole := by
  induction text generalizing position with
  | nil => rfl
  | cons c rest ih =>
    cases c with
    | half index => rfl
    | char c =>
      have h : Text.isWhole (.char c :: rest) = Text.isWhole rest := by
        simp [Text.isWhole, CodePoint.isHalf]
      rw [h, ← ih (position + 1), encodeFrom]
      cases encodeFrom (position + 1) rest <;> rfl

/-- A text can be encoded exactly if it holds characters only. -/
theorem isOk_encode (text : Text) : (encode text).isOk = text.isWhole := isOk_encodeFrom 0 text

/-- Characters can always be encoded. -/
theorem encode_ofChars (chars : List Char) :
    encode (Text.ofChars chars) = .ok (chars.flatMap encodeChar) := encodeFrom_ofChars 0 chars

/-- What is wrong with a part of a row of bytes. -/
inductive Defect where
  /-- No character begins with this byte. -/
  | start
  /-- The byte after this part cannot continue the character that it begins. -/
  | continuation
  /-- The bytes end within a character. -/
  | truncated
  deriving DecidableEq, Repr

/-- One character, or a part of the bytes that is none. -/
inductive Piece where
  | char (c : Char)
  | bad (part : Bytes) (defect : Defect)
  deriving DecidableEq, Repr

/-- A character of which some bytes have been read. -/
structure Partial where
  /-- The bytes read, in order. -/
  seen : Bytes
  /-- The value they contribute. -/
  value : Nat
  /-- How many more bytes belong to the character. -/
  missing : Nat
  /-- The least byte that may come next. -/
  low : UInt8 := 0x80
  /-- The greatest byte that may come next. -/
  high : UInt8 := 0xBF

/-- What a byte is at the start of a character. The bounds on the second byte rule out long forms,
surrogates and values beyond the last character. -/
def opening (b : UInt8) : Piece ⊕ Partial :=
  if b < 0x80 then .inl (.char (Char.ofNat b.toNat))
  else if b < 0xC2 then .inl (.bad [b] .start)
  else if b < 0xE0 then .inr { seen := [b], value := b.toNat - 0xC0, missing := 1 }
  else if b < 0xF0 then
    .inr { seen := [b], value := b.toNat - 0xE0, missing := 2,
           low := if b = 0xE0 then 0xA0 else 0x80, high := if b = 0xED then 0x9F else 0xBF }
  else if b < 0xF5 then
    .inr { seen := [b], value := b.toNat - 0xF0, missing := 3,
           low := if b = 0xF0 then 0x90 else 0x80, high := if b = 0xF4 then 0x8F else 0xBF }
  else .inl (.bad [b] .start)

/-- A partial character with one more byte, which is known to continue it. -/
def Partial.push (p : Partial) (b : UInt8) : Piece ⊕ Partial :=
  let value := p.value * 0x40 + b.toNat % 0x40
  if p.missing ≤ 1 then .inl (.char (Char.ofNat value))
  else .inr { seen := p.seen ++ [b], value := value, missing := p.missing - 1 }

/-- The pieces of a row of bytes that starts within the given partial character, if any. -/
def piecesFrom : Option Partial → Bytes → List Piece
  | none, [] => []
  | some p, [] => [.bad p.seen .truncated]
  | none, b :: rest =>
    match opening b with
    | .inl piece => piece :: piecesFrom none rest
    | .inr p => piecesFrom (some p) rest
  | some p, b :: rest =>
    if p.low ≤ b ∧ b ≤ p.high then
      match p.push b with
      | .inl piece => piece :: piecesFrom none rest
      | .inr longer => piecesFrom (some longer) rest
    else
      .bad p.seen .continuation ::
        match opening b with
        | .inl piece => piece :: piecesFrom none rest
        | .inr fresh => piecesFrom (some fresh) rest

/-- The characters and bad parts of a row of bytes, in order. -/
def pieces (bytes : Bytes) : List Piece := piecesFrom none bytes

/-- The first bad part of a row of bytes, and where it begins. -/
structure Fault where
  position : Nat
  part : Bytes
  defect : Defect
  deriving DecidableEq, Repr

/-- The characters of the pieces, or the first bad part. The first argument is the position at
which the pieces begin. -/
def collect : Nat → List Piece → Except Fault Text
  | _, [] => .ok []
  | position, .char c :: rest =>
    (collect (position + (encodeChar c).length) rest).map (.char c :: ·)
  | position, .bad part defect :: _ => .error ⟨position, part, defect⟩

/-- The text that the bytes encode, or their first bad part. -/
def decode (bytes : Bytes) : Except Fault Text := collect 0 (pieces bytes)

/-- The character of a piece, the replacement character for a bad part. -/
def Piece.orReplacement : Piece → Char
  | .char c => c
  | .bad _ _ => '\uFFFD'

/-- The text of the bytes with each bad part replaced. -/
def decodeLossy (bytes : Bytes) : Text := Text.ofChars ((pieces bytes).map Piece.orReplacement)

/-- The words for a defect. -/
def Defect.reason : Defect → Text
  | .start => "invalid start byte"
  | .continuation => "invalid continuation byte"
  | .truncated => "unexpected end of data"

/-- The message for bytes that cannot be decoded. It names one byte by its value, several by the
positions of the first and the last. -/
def Fault.message (fault : Fault) : Text :=
  let place : Text := match fault.part with
    | [b] => "byte 0x" ++ Text.hexPadded 2 b.toNat ++ " in position " ++
        Text.ofNat fault.position
    | part => "bytes in position " ++ Text.ofNat fault.position ++ "-" ++
        Text.ofNat (fault.position + part.length - 1)
  "'utf-8' codec can't decode " ++ place ++ ": " ++ fault.defect.reason

/-- The message for a text that cannot be encoded. It names one half itself, several by the
positions of the first and the last. -/
def Unencodable.message (fault : Unencodable) : Text :=
  let place : Text := match fault.halves with
    | [one] => "character " ++ Text.quote [one] ++ " in position " ++ Text.ofNat fault.position
    | halves => "characters in position " ++ Text.ofNat fault.position ++ "-" ++
        Text.ofNat (fault.position + halves.length - 1)
  "'utf-8' codec can't encode " ++ place ++ ": surrogates not allowed"

end Utf8

end ScenarioDesk
