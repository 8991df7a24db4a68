import ScenarioDesk.Text.CodePage
import ScenarioDesk.Text.Newline
import ScenarioDesk.Text.Utf8

/-!
The text of a file whose encoding is not known. UTF-8 is tried first, with a byte order mark in
front left out; then the Cyrillic code page; then UTF-8 with its bad parts replaced. Line ends are
read as line feeds. A file that the program wrote is always read by the first rule.
-/

namespace ScenarioDesk.FileText

/-- The mark that some editors put in front of UTF-8 text. -/
def byteOrderMark : Bytes := [0xEF, 0xBB, 0xBF]

/-- The bytes as UTF-8 with an optional byte order mark. A file that ends within the mark is
empty. -/
def decodeMarked (bytes : Bytes) : Except Utf8.Fault Text :=
  if bytes.length < 3 ∧ bytes.isPrefixOf byteOrderMark then .ok []
  else if byteOrderMark.isPrefixOf bytes then Utf8.decode (bytes.drop 3)
  else Utf8.decode bytes

/-- The characters of a file by the first of the three encodings that accepts its bytes. -/
def decodeAny (bytes : Bytes) : Text :=
  match decodeMarked bytes with
  | .ok text => text
  | .error _ => (CodePage.decodeCyrillic bytes).getD (Utf8.decodeLossy bytes)

/-- The text of a file, with line feeds as its only line ends. -/
def read (bytes : Bytes) : Text := Text.universalNewlines (decodeAny bytes)

/-- The text of a file that has to be UTF-8, with line feeds as its only line ends. A byte order
mark is a character here. -/
def readStrict (bytes : Bytes) : Except Utf8.Fault Text :=
  (Utf8.decode bytes).map Text.universalNewlines

end ScenarioDesk.FileText
