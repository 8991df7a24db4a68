import ScenarioDesk.Text.Blank
import ScenarioDesk.Text.Case

/-!
The keywords of Gherkin. A keyword is recognised in any mixture of cases, where the letters i and s
have more spellings than two: the dotted capital and the dotless small i, and the long s.
-/

namespace ScenarioDesk

/-- The keywords that can open a line. -/
inductive Keyword where
  | feature
  | scenario
  | givenStep
  | whenStep
  | thenStep
  | andStep
  | butStep
  deriving DecidableEq, Repr

namespace Keyword

/-- The canonical spelling. The colon belongs to a header's keyword. -/
def canonical : Keyword → Text
  | .feature => "Feature:"
  | .scenario => "Scenario:"
  | .givenStep => "Given"
  | .whenStep => "When"
  | .thenStep => "Then"
  | .andStep => "And"
  | .butStep => "But"

/-- All keywords. None is the beginning of another one. -/
def all : List Keyword :=
  [.feature, .scenario, .givenStep, .whenStep, .thenStep, .andStep, .butStep]

/-- The keywords that open a step. -/
def steps : List Keyword := [.givenStep, .whenStep, .thenStep, .andStep, .butStep]

/-- A code point stands for one of a canonical spelling. One that is no character stands only for
itself. -/
def spells : (expected found : CodePoint) → Bool
  | .char expected, .char found =>
    found = expected || found.toLower = expected.toLower ||
      (expected.toLower = 'i' && (found = '\u0130' || found = '\u0131')) ||
      (expected.toLower = 's' && found = '\u017F')
  | expected, found => found = expected

/-- Cuts a text after some character-by-character spelling of a word, if it starts with one. -/
def spelledBy? : (word text : Text) → Option (Text × Text)
  | [], text => some ([], text)
  | _ :: _, [] => none
  | expected :: word, found :: rest =>
    if spells expected found then
      (spelledBy? word rest).map fun (spelling, after) => (found :: spelling, after)
    else none

/-- A keyword in front of a text: which one, how it is spelled there, and the text after it. -/
structure Found where
  keyword : Keyword
  spelling : Text
  after : Text
  deriving DecidableEq, Repr

/-- The one of the given keywords that the text starts with. -/
def atStart? (keywords : List Keyword) (text : Text) : Option Found :=
  keywords.findSome? fun keyword =>
    (spelledBy? keyword.canonical text).map fun (spelling, after) => ⟨keyword, spelling, after⟩

/-- How a spelling is shown: the first character in upper case, the others in lower case. -/
def display (spelling : Text) : Text :=
  Text.upper (spelling.take 1) ++ Text.lower (spelling.drop 1)

/-- A spelling and what follows it make up the text, and the spelling is as long as the word. -/
theorem eq_append_of_spelledBy? {word text spelling after : Text}
    (h : spelledBy? word text = some (spelling, after)) :
    text = spelling ++ after ∧ spelling.length = word.length := by
  induction word generalizing text spelling after with
  | nil =>
    simp only [spelledBy?, Option.some.injEq, Prod.mk.injEq] at h
    obtain ⟨rfl, rfl⟩ := h
    simp
  | cons expected word ih =>
    cases text with
    | nil => simp [spelledBy?] at h
    | cons found rest =>
      simp only [spelledBy?] at h
      split at h
      · obtain ⟨⟨others, rest⟩, hs, heq⟩ := Option.map_eq_some_iff.1 h
        simp only [Prod.mk.injEq] at heq
        obtain ⟨rfl, rfl⟩ := heq
        obtain ⟨hrest, hlength⟩ := ih hs
        simp [← hrest, hlength]
      · simp at h

theorem eq_append_of_atStart? {keywords : List Keyword} {text : Text} {found : Found}
    (h : atStart? keywords text = some found) :
    found.keyword ∈ keywords ∧ text = found.spelling ++ found.after ∧
      found.spelling.length = found.keyword.canonical.length := by
  obtain ⟨keyword, hmem, hfound⟩ := List.exists_of_findSome?_eq_some h
  obtain ⟨⟨spelling, after⟩, hs, rfl⟩ := Option.map_eq_some_iff.1 hfound
  exact ⟨hmem, eq_append_of_spelledBy? hs⟩

end Keyword

end ScenarioDesk
