import ScenarioDesk.Gherkin.KeywordLine
import ScenarioDesk.Text.Newline

/-!
Lines as coloured tokens. A keyword line consists of its keyword in display form, the blanks, and a
rest in which every pair of double quotes encloses a parameter; any other line is one plain token.
-/

namespace ScenarioDesk

/-- What a token is shown as. -/
inductive TokenKind where
  | keyword
  | parameter
  | plain
  deriving DecidableEq, Repr

/-- A piece of a line as it is displayed. -/
structure Token where
  kind : TokenKind
  text : Text
  deriving DecidableEq, Repr

namespace Token

/-- The no-break space, which an empty line is shown as. -/
def blankMarker : Text := ['\u00A0']

/-- A plain token, unless it would be empty. -/
def plain? (text : Text) : List Token := if text = [] then [] else [⟨.plain, text⟩]

/-- A parameter from its opening to its closing quote, given what lies between them. -/
def quoted (inner : Text) : Token := ⟨.parameter, '"' :: (inner ++ [.char '"'])⟩

/-- The tokens of a text cut at its double quotes into a first piece and others. Quotes pair up from
the left; a last quote without a partner is plain. -/
def ofPieces : (first : Text) → (others : List Text) → List Token
  | first, [] => plain? first
  | first, [last] => plain? (first ++ .char '"' :: last)
  | first, inner :: next :: others => plain? first ++ quoted inner :: ofPieces next others

/-- The tokens of the rest of a keyword line. -/
def ofRest (rest : Text) : List Token :=
  let (first, others) := Text.split '"' rest
  ofPieces first others

theorem text_plain? (text : Text) : (plain? text).flatMap Token.text = text := by
  unfold plain?
  split <;> simp_all

end Token

/-- The tokens of one line. -/
structure TokenLine where
  tokens : List Token
  deriving DecidableEq, Repr

namespace TokenLine

/-- The line as it is displayed. -/
def text (line : TokenLine) : Text := line.tokens.flatMap Token.text

/-- The line an empty line is shown as. A line that consists of a no-break space looks the same. -/
def isBlank (line : TokenLine) : Bool := line.tokens = [⟨.plain, Token.blankMarker⟩]

/-- The tokens of a line. -/
def ofLine (line : Text) : TokenLine :=
  match KeywordLine.ofLine? line with
  | some cut =>
    ⟨⟨.keyword, Keyword.display cut.spelling⟩ :: ⟨.plain, cut.gap⟩ :: Token.ofRest cut.rest⟩
  | none => ⟨[⟨.plain, if line = [] then Token.blankMarker else line⟩]⟩

/-- The tokens of every line of a text. -/
def ofText (text : Text) : List TokenLine := (Text.normalizedLines text).map ofLine

end TokenLine

end ScenarioDesk
