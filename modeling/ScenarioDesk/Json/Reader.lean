import ScenarioDesk.Json.Value

/-!
Reading JSON. Beside the standard grammar the reader accepts the words `NaN`, `Infinity` and
`-Infinity` as numbers and any character from the space on in a string. An escape that names half of
a surrogate pair is kept as that half, unless the other half follows it. Of fields with the same
name the last value counts. A text that is refused is refused at its first fault.

The reader goes one level down for each array and object that it is in. How many levels are left to it
depends on who calls it, so that number is an argument. Reporting a fault and looking up a word take
levels as well, and where too few are left that is refused in place of the fault.
-/

namespace ScenarioDesk.Json

/-- What the reader expected, or what it found instead. -/
inductive Reason where
  | expectedValue
  | expectedName
  | expectedColon
  | expectedComma
  | trailingData
  | openString
  | controlCharacter
  | unknownEscape
  | brokenCodeEscape
  | byteOrderMark
  deriving DecidableEq, Repr

/-- What there were too few levels for. -/
inductive Excess where
  | array
  | object
  /-- A call that the reader makes, to report a fault or to look up a word. -/
  | call
  /-- A value that is shown in a message. -/
  | shown
  deriving DecidableEq, Repr

/-- Why a text is refused. The place of a fault in the grammar is kept as the rest of the text from
there on. -/
inductive Refusal where
  | malformed (reason : Reason) (rest : Text)
  /-- An integer has more digits than the reader converts. -/
  | hugeInteger (digits : Nat)
  /-- Too few levels are left. -/
  | tooDeep (excess : Excess)
  deriving DecidableEq, Repr

/-- The most digits of an integer that is converted. -/
def digitLimit : Nat := 4300

/-- How many levels it takes to report a fault with its place counted out. -/
def faultDepth : Nat := 3

/-- A fault that is found with some levels left. -/
def Refusal.reportedAt (depth : Nat) : Refusal → Refusal
  | .malformed reason rest => if depth < faultDepth then .tooDeep .call else .malformed reason rest
  | refusal => refusal

/-- The characters between two parts of a value that carry no meaning. -/
def isSpace (c : CodePoint) : Bool := c = ' ' || c = '\t' || c = '\n' || c = '\r'

/-- A text without the meaningless characters in front. -/
def skipSpace (text : Text) : Text := text.dropWhile isSpace

/-- The value of a digit in base sixteen. -/
def hexValue (c : CodePoint) : Option Nat :=
  let n := c.number
  if c.isDigit then some (n - '0'.toNat)
  else if 'a'.toNat ≤ n ∧ n ≤ 'f'.toNat then some (n - 'a'.toNat + 10)
  else if 'A'.toNat ≤ n ∧ n ≤ 'F'.toNat then some (n - 'A'.toNat + 10)
  else none

/-- The code that four digits in base sixteen give. At least one more character has to follow. -/
def hexCode : Text → Option Nat
  | a :: b :: c :: d :: _ :: _ => do
    return (((← hexValue a) * 16 + (← hexValue b)) * 16 + (← hexValue c)) * 16 + (← hexValue d)
  | _ => none

/-- The code is the first half of a surrogate pair. -/
def isHighHalf (code : Nat) : Bool := 0xD800 ≤ code && code ≤ 0xDBFF

/-- The code is the second half of a surrogate pair. -/
def isLowHalf (code : Nat) : Bool := 0xDC00 ≤ code && code ≤ 0xDFFF

/-- The low half that the text writes as an escape, if it starts with one. -/
def lowHalf? : Text → Option Nat
  | .char '\\' :: .char 'u' :: rest => (hexCode rest).filter isLowHalf
  | _ => none

/-- The number of the character that a pair of halves stands for. -/
def joinHalves (high low : Nat) : Nat := 0x10000 + (high - 0xD800) * 0x400 + (low - 0xDC00)

/-- The code point that a code escape stands for and how many characters it takes after its letter.
A high half takes a low half that follows it along. -/
def escapedCode (code : Nat) (rest : Text) : CodePoint × Nat :=
  match (if isHighHalf code then lowHalf? (rest.drop 4) else none) with
  | some low => (.ofNumber (joinHalves code low), 10)
  | none => (.ofNumber code, 4)

/-- The character that one letter after a backslash stands for. -/
def letterEscape : Char → Option Char
  | '"' => some '"'
  | '\\' => some '\\'
  | '/' => some '/'
  | 'b' => some '\x08'
  | 'f' => some '\x0c'
  | 'n' => some '\n'
  | 'r' => some '\r'
  | 't' => some '\t'
  | _ => none

/-- The code point of an escape and how many characters it takes after the backslash. The first text
starts at the string's opening quote, the second at the backslash. -/
def readEscape (opening here : Text) : Except Refusal (CodePoint × Nat) :=
  match here.drop 1 with
  | [] => .error (.malformed .openString opening)
  | .char 'u' :: digits =>
    match hexCode digits with
    | some code =>
      let (meant, width) := escapedCode code digits
      .ok (meant, width + 1)
    | none => .error (.malformed .brokenCodeEscape (here.drop 1))
  | .char c :: _ =>
    match letterEscape c with
    | some meant => .ok (meant, 1)
    | none => .error (.malformed .unknownEscape here)
  | .half _ :: _ => .error (.malformed .unknownEscape here)

/-- The content up to the closing quote and the text after it. The first `skip` characters belong to
an escape that has been read. -/
def readContent (opening : Text) : (skip : Nat) → Text → Except Refusal (Text × Text)
  | _, [] => .error (.malformed .openString opening)
  | skip + 1, _ :: rest => readContent opening skip rest
  | 0, c :: rest =>
    if c = '"' then .ok ([], rest)
    else if c = '\\' then do
      let (meant, width) ← readEscape opening (c :: rest)
      let (more, after) ← readContent opening width rest
      return (meant :: more, after)
    else if c.number ≤ 0x1F then .error (.malformed .controlCharacter (c :: rest))
    else do
      let (more, after) ← readContent opening 0 rest
      return (c :: more, after)

/-- The string whose opening quote is the first character, and the text after it. -/
def readString (opening : Text) : Except Refusal (Text × Text) :=
  readContent opening 0 (opening.drop 1)

/-- A string that is read with some levels left. -/
def readStringWithin (depth : Nat) (opening : Text) : Except Refusal (Text × Text) :=
  (readString opening).mapError (Refusal.reportedAt depth)

/-- The digits in front and the text after them. -/
def spanDigits (text : Text) : Text × Text :=
  (text.takeWhile CodePoint.isDigit, text.dropWhile CodePoint.isDigit)

/-- The digits before the point of a number, of which only a lone zero may start with zero. -/
def readWhole : Text → Option (Text × Text)
  | .char '0' :: rest => some (['0'], rest)
  | c :: rest => if c.isDigit then some (spanDigits (c :: rest)) else none
  | [] => none

/-- The digits after a point. A point without a digit is not part of the number. -/
def readFraction (text : Text) : Option (Text × Text) :=
  match text with
  | .char '.' :: rest =>
    match spanDigits rest with
    | ([], _) => none
    | found => some found
  | _ => none

/-- The power of ten of a number. A letter without a digit after it is not part of the number. -/
def readPower (text : Text) : Option (Int × Text) :=
  match text with
  | c :: rest =>
    if c = 'e' ∨ c = 'E' then
      let (negative, digits) := match rest with
        | .char '-' :: digits => (true, digits)
        | .char '+' :: digits => (false, digits)
        | digits => (false, digits)
      match spanDigits digits with
      | ([], _) => none
      | (found, after) =>
        some (if negative then -(Text.toNat found : Int) else Text.toNat found, after)
    else none
  | [] => none

/-- The number in front of a text and the text after it. -/
def readNumber (text : Text) : Except Refusal (Json × Text) :=
  let (negative, unsigned) := match text with
    | .char '-' :: rest => (true, rest)
    | rest => (false, rest)
  match readWhole unsigned with
  | none => .error (.malformed .expectedValue text)
  | some (whole, afterWhole) =>
    let (fraction, afterFraction) := (readFraction afterWhole).getD ([], afterWhole)
    let (power, after) := match readPower afterFraction with
      | some (power, after) => (some power, after)
      | none => (none, afterFraction)
    if fraction = [] ∧ power = none then
      if digitLimit < whole.length then .error (.hugeInteger whole.length)
      else
        let n : Int := Text.toNat whole
        .ok (.int (if negative then -n else n), after)
    else
      let exponent : Int := power.getD 0 - fraction.length
      .ok (.float (Binary64.ofDecimal negative (Text.toNat (whole ++ fraction)) exponent), after)

/-- The text after a word that it starts with. -/
def dropWord? (word text : Text) : Option Text :=
  if word.isPrefixOf text then some (text.drop word.length) else none

/-- The words that are values. -/
def constants : List (Text × Json) := [
  ("null", .null), ("true", .bool true), ("false", .bool false), ("NaN", .float .nan),
  ("Infinity", .float (.infinite false)), ("-Infinity", .float (.infinite true))]

/-- The constant in front of a text and the text after it. -/
def readConstant? (text : Text) : Option (Json × Text) :=
  constants.findSome? fun (word, value) => (dropWord? word text).map (value, ·)

/-- The value is a number that a word stands for. Such a word is looked up in a table, which takes one
level. -/
def isNumber : Json → Bool
  | .float _ => true
  | _ => false

mutual

/-- The value in front of a text and the text after it. Both `steps` and `depth` bound the
recursion: the first never runs out for a whole text, the second does where the nesting is too deep. -/
def readValue : (steps depth : Nat) → Text → Except Refusal (Json × Text)
  | 0, _, text => .error (.malformed .expectedValue text)
  | steps + 1, depth, text =>
    match text with
    | .char '"' :: _ => do
      let (content, after) ← readStringWithin depth text
      return (.string content, after)
    | .char '[' :: rest =>
      match depth with
      | 0 => .error (.tooDeep .array)
      | depth + 1 =>
        match skipSpace rest with
        | .char ']' :: after => .ok (.array [], after)
        | inside => do
          let (items, after) ← readItems steps depth inside
          return (.array items, after)
    | .char '\x7b' :: rest =>
      match depth with
      | 0 => .error (.tooDeep .object)
      | depth + 1 =>
        match skipSpace rest with
        | .char '\x7d' :: after => .ok (.object [], after)
        | inside => do
          let (fields, after) ← readFields steps depth [] inside
          return (.object fields, after)
    | _ =>
      match readConstant? text with
      | some found => if isNumber found.1 ∧ depth = 0 then .error (.tooDeep .call) else .ok found
      | none => readNumber text

/-- The items of an array from the first character of an item to after the closing bracket. -/
def readItems : (steps depth : Nat) → Text → Except Refusal (List Json × Text)
  | 0, _, text => .error (.malformed .expectedValue text)
  | steps + 1, depth, text => do
    let (item, after) ← readValue steps depth text
    match skipSpace after with
    | .char ']' :: rest => return ([item], rest)
    | .char ',' :: rest =>
      let (items, rest) ← readItems steps depth (skipSpace rest)
      return (item :: items, rest)
    | other => .error (Refusal.reportedAt depth (.malformed .expectedComma other))

/-- The fields of an object from the first character of a name to after the closing brace, put into
the fields before them. -/
def readFields : (steps depth : Nat) → Fields → Text → Except Refusal (Fields × Text)
  | 0, _, _, text => .error (.malformed .expectedName text)
  | steps + 1, depth, fields, text => do
    match text with
    | .char '"' :: _ =>
      let (name, afterName) ← readStringWithin depth text
      match skipSpace afterName with
      | .char ':' :: rest =>
        let (value, afterValue) ← readValue steps depth (skipSpace rest)
        let fields := fields.put name value
        match skipSpace afterValue with
        | .char '\x7d' :: rest => return (fields, rest)
        | .char ',' :: rest => readFields steps depth fields (skipSpace rest)
        | other => .error (Refusal.reportedAt depth (.malformed .expectedComma other))
      | other => .error (Refusal.reportedAt depth (.malformed .expectedColon other))
    | other => .error (Refusal.reportedAt depth (.malformed .expectedName other))

end

/-- The one value that a whole text is, blanks around it aside. -/
def readAll (depth : Nat) (text : Text) : Except Refusal Json :=
  if text.head? = some (.char '\uFEFF') then .error (.malformed .byteOrderMark text)
  else do
    let (value, after) ← readValue (2 * text.length + 2) depth (skipSpace text)
    match skipSpace after with
    | [] => return value
    | rest => .error (.malformed .trailingData rest)

/-- Why a whole text is refused, with the place of a fault: its line and column, both from one, and
how many characters stand before it. -/
inductive ReadError where
  | malformed (reason : Reason) (line column offset : Nat)
  | hugeInteger (digits : Nat)
  | tooDeep (excess : Excess)
  deriving DecidableEq, Repr

/-- The refusal of a text with the place of the fault counted out. -/
def Refusal.locate (text : Text) : Refusal → ReadError
  | .malformed reason rest =>
    let before := text.take (text.length - rest.length)
    .malformed reason (Text.lineCount before) ((Text.afterLast '\n' before).length + 1)
      before.length
  | .hugeInteger digits => .hugeInteger digits
  | .tooDeep excess => .tooDeep excess

/-- Reads a text as one JSON value with some levels left. -/
def readWithin (depth : Nat) (text : Text) : Except ReadError Json :=
  (readAll depth text).mapError (Refusal.locate text)

/-- Reads a text as one JSON value, however deep it is: a text has no more levels than characters. -/
def read (text : Text) : Except ReadError Json := readWithin (text.length + faultDepth) text

/-- The words for a fault. -/
def Reason.words : Reason → Text
  | .expectedValue => "Expecting value"
  | .expectedName => "Expecting property name enclosed in double quotes"
  | .expectedColon => "Expecting ':' delimiter"
  | .expectedComma => "Expecting ',' delimiter"
  | .trailingData => "Extra data"
  | .openString => "Unterminated string starting at"
  | .controlCharacter => "Invalid control character at"
  | .unknownEscape => "Invalid \\escape"
  | .brokenCodeEscape => "Invalid \\uXXXX escape"
  | .byteOrderMark => "Unexpected UTF-8 BOM (decode using utf-8-sig)"

/-- The words for what there were too few levels for. Those for a call depend on how many were left, and
only what they begin with is given. -/
def Excess.words : Excess → Text
  | .array => " while decoding a JSON array from a unicode string"
  | .object => " while decoding a JSON object from a unicode string"
  | .call => []
  | .shown => " while getting the repr of an object"

/-- The message for a text that is refused. -/
def ReadError.message : ReadError → Text
  | .malformed reason line column offset =>
    reason.words ++ ": line " ++ Text.ofNat line ++ " column " ++ Text.ofNat column ++
      " (char " ++ Text.ofNat offset ++ ")"
  | .hugeInteger digits =>
    "Exceeds the limit (" ++ Text.ofNat digitLimit ++
      " digits) for integer string conversion: value has " ++ Text.ofNat digits ++
      " digits; use sys.set_int_max_str_digits() to increase the limit"
  | .tooDeep excess => "maximum recursion depth exceeded" ++ excess.words

end ScenarioDesk.Json
