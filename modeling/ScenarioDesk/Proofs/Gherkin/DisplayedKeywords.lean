import ScenarioDesk.Proofs.Gherkin.Boundaries
import ScenarioDesk.Proofs.Scenario.StepRecognition

/-! How keywords are displayed. A keyword is recognised in any spelling of its letters and displayed in upper
and lower case. Two letters that spell an i have another lower case than the i has: a keyword that is spelled
with one of them is not displayed as it is written elsewhere, and the capital with a dot makes the displayed
line longer. -/
namespace ScenarioDesk

namespace Keyword

/-- The capital letter i with a dot. Its lower case is a small i and a dot that combines with it. -/
def dottedI : CodePoint := '\u0130'

/-- The small letter i without a dot, its own lower case. -/
def dotlessI : CodePoint := '\u0131'

/-- What a letter of a keyword is displayed as, given what it is spelled with. -/
def displayed (expected found : CodePoint) : Text :=
  if found = dottedI then ['i', '\u0307'] else if found = dotlessI then [dotlessI] else [expected]

/-- What keywords consist of behind their first letter: small characters of ASCII, and no s, which has one
more spelling. -/
def isInner : CodePoint → Bool
  | .char letter => isSmall letter && letter ≠ 's'
  | .half _ => false

theorem exists_canonical_eq_inner (keyword : Keyword) : ∃ letter word,
    keyword.canonical = .char letter :: word ∧ IsCapital letter ∧ word.all isInner = true := by
  cases keyword <;> exact ⟨_, _, rfl, ⟨by decide, by decide, by decide⟩, by decide⟩

theorem ascii_canonical (keyword : Keyword) : ∀ c ∈ keyword.canonical, c.number < 0x80 := by
  cases keyword <;> decide

theorem mem_all (keyword : Keyword) : keyword ∈ all := by
  cases keyword <;> decide

/-- Beyond ASCII there are three characters that spell a letter. -/
theorem beyond_ascii_of_spells {letter c : Char} (hAscii : letter.toNat < 0x80) (hBeyond : 0x80 ≤ c.toNat)
    (h : spells letter c = true) :
    (letter.toLower = 'i' ∧ (c = '\u0130' ∨ c = '\u0131')) ∨ (letter.toLower = 's' ∧ c = '\u017F') := by
  simp only [spells, Bool.or_eq_true, Bool.and_eq_true, decide_eq_true_eq] at h
  rcases h with ((hSelf | hSame) | hI) | hS
  · rw [hSelf] at hBeyond
    omega
  · obtain ⟨hLower, _⟩ := Text.toUpper_toLower hAscii
    rw [Text.toLower_of_beyond_ascii hBeyond] at hSame
    rw [hSame] at hBeyond
    omega
  · exact .inl hI
  · exact .inr hS

section Inner

variable {expected found : CodePoint} (hInner : isInner expected = true)
  (hSpells : spells expected found = true)
include hInner hSpells

/-- The long s and the capital sigma spell none of these letters. -/
theorem ne_of_spells : found ≠ '\u017F' ∧ found ≠ '\u03A3' := by
  cases expected with
  | half index => cases hInner
  | char letter =>
      simp only [isInner, Bool.and_eq_true, decide_eq_true_eq] at hInner
      obtain ⟨hSmall, hOther⟩ := hInner
      obtain ⟨⟨hAscii, _⟩, hLower⟩ := isSmall_iff.mp hSmall
      constructor
      · rintro rfl
        have h := beyond_ascii_of_spells hAscii (by decide) hSpells
        simp [hLower, hOther] at h
      · rintro rfl
        have h := beyond_ascii_of_spells hAscii (by decide) hSpells
        simp at h

theorem lowerChar_of_spells : Text.lowerChar found = displayed expected found := by
  obtain ⟨hLong, _⟩ := ne_of_spells hInner hSpells
  rw [displayed]
  split
  · next hDotted =>
      rw [hDotted]
      decide +kernel
  · next hDotted =>
      split
      · next hDotless =>
          rw [hDotless]
          decide +kernel
      · next hDotless =>
          cases expected with
          | half index => cases hInner
          | char letter =>
              simp only [isInner, Bool.and_eq_true, decide_eq_true_eq] at hInner
              refine (spells_iff hInner.1).mp ⟨hSpells, ?_⟩
              simp only [dottedI, dotlessI] at hDotted hDotless
              simp [foreignLetters, hDotted, hDotless, hLong]

end Inner

/-- The letters behind the first one are displayed in lower case, whatever stands before them. -/
theorem lowerAfter_of_spells {word spelling : Text} (hWord : word.all isInner = true)
    (h : Spells word spelling) (before : Text) :
    Text.lowerAfter before spelling = (List.zipWith displayed word spelling).flatten := by
  induction h generalizing before with
  | nil => rfl
  | @cons expected found word spelling hFound _ ih =>
      rw [List.all_cons, Bool.and_eq_true] at hWord
      obtain ⟨hLetter, hOthers⟩ := hWord
      obtain ⟨_, hSigma⟩ := ne_of_spells hLetter hFound
      rw [Text.lowerAfter, if_neg hSigma, lowerChar_of_spells hLetter hFound, ih hOthers,
        List.zipWith_cons_cons, List.flatten_cons]

/-- The first letter of a keyword is no i. -/
theorem IsCapital.ne_of_spells {letter : Char} (h : IsCapital letter) {found : CodePoint}
    (hSpells : spells letter found = true) : found ≠ dottedI ∧ found ≠ dotlessI := by
  constructor
  · rintro rfl
    have hBeyond := beyond_ascii_of_spells h.ascii (by decide) hSpells
    simp [h.ne_i] at hBeyond
  · rintro rfl
    have hBeyond := beyond_ascii_of_spells h.ascii (by decide) hSpells
    simp [h.ne_i] at hBeyond

/-- A keyword is displayed letter by letter. -/
theorem display_eq {keyword : Keyword} {spelling : Text} (h : Spells keyword.canonical spelling) :
    display spelling = (List.zipWith displayed keyword.canonical spelling).flatten := by
  obtain ⟨letter, word, hCanonical, hCapital, hWord⟩ := keyword.exists_canonical_eq_inner
  rw [hCanonical] at h ⊢
  cases h with
  | @cons _ found _ spelling hFound hOthers =>
      obtain ⟨hDotted, hDotless⟩ := hCapital.ne_of_spells hFound
      have hFirst : Text.upper [found] = displayed (.char letter) found := by
        rw [Text.upper, List.flatMap_singleton, hCapital.upperChar_of_spells hFound, displayed,
          if_neg hDotted, if_neg hDotless]
      rw [display, List.take_succ_cons, List.take_zero, List.drop_succ_cons, List.drop_zero, hFirst,
        Text.lower, lowerAfter_of_spells hWord hOthers, List.zipWith_cons_cons, List.flatten_cons]

/-- Only the capital with a dot is displayed as two characters. -/
theorem length_displayed (expected found : CodePoint) :
    (displayed expected found).length = if found = dottedI then 2 else 1 := by
  rw [displayed]
  split
  · rfl
  · split
    · rfl
    · rfl

theorem length_displayed_word {word spelling : Text} (h : Spells word spelling) :
    (List.zipWith displayed word spelling).flatten.length =
      spelling.length + spelling.count dottedI := by
  induction h with
  | nil => rfl
  | @cons expected found word spelling _ _ ih =>
      rw [List.zipWith_cons_cons, List.flatten_cons, List.length_append, ih, List.length_cons,
        List.count_cons, length_displayed]
      simp only [beq_iff_eq]
      split
      · omega
      · omega

/-- A word of ASCII is displayed as it is written unless one of the two letters spells an i. -/
theorem displayed_eq_iff {word spelling : Text} (hAscii : ∀ c ∈ word, c.number < 0x80)
    (h : Spells word spelling) : (List.zipWith displayed word spelling).flatten = word ↔
      dottedI ∉ spelling ∧ dotlessI ∉ spelling := by
  induction h with
  | nil => simp
  | @cons expected found word spelling hFound hOthers ih =>
      obtain ⟨hLetter, hWord⟩ := List.forall_mem_cons.mp hAscii
      rw [List.zipWith_cons_cons, List.flatten_cons, displayed]
      by_cases hDotted : found = dottedI
      · rw [if_pos hDotted, hDotted]
        constructor
        · intro hText
          obtain ⟨_, hDot⟩ := List.cons.inj hText
          exact absurd (hWord '\u0307' (hDot ▸ List.mem_cons_self)) (by decide)
        · rintro ⟨hNone, _⟩
          exact absurd List.mem_cons_self hNone
      · by_cases hDotless : found = dotlessI
        · rw [if_neg hDotted, if_pos hDotless, hDotless]
          constructor
          · intro hText
            obtain ⟨hLetter', _⟩ := List.cons.inj hText
            exact absurd (hLetter' ▸ hLetter) (by decide)
          · rintro ⟨_, hNone⟩
            exact absurd List.mem_cons_self hNone
        · rw [if_neg hDotted, if_neg hDotless, List.singleton_append, List.cons_inj_right, ih hWord]
          simp [Ne.symm hDotted, Ne.symm hDotless]

/-- How a spelling of a keyword is displayed: as the canonical spelling, as no other one, and it is as long as
it stands there unless it has a capital i with a dot. -/
theorem display_spec {keyword : Keyword} {spelling : Text} (h : Spells keyword.canonical spelling) :
    (display spelling = keyword.canonical ↔ dottedI ∉ spelling ∧ dotlessI ∉ spelling) ∧
      (display spelling ∈ all.map canonical ↔ display spelling = keyword.canonical) ∧
      (display spelling).length = spelling.length + spelling.count dottedI := by
  refine ⟨?_, ⟨fun hMem => ?_, fun hSame => ?_⟩, ?_⟩
  · rw [display_eq h, displayed_eq_iff keyword.ascii_canonical h]
  · obtain ⟨other, _, hOther⟩ := List.mem_map.mp hMem
    have hHead := head_display h
    rw [← hOther] at hHead
    rw [← hOther, head_canonical_injective hHead]
  · rw [hSame]
    exact List.mem_map_of_mem keyword.mem_all
  · rw [display_eq h, length_displayed_word h]

end Keyword

/-- The rest of a keyword line has no keyword. -/
theorem Token.Accounts.kind_ne_keyword {rest : Text} {tokens : List Token} (h : Accounts rest tokens)
    {token : Token} (hMem : token ∈ tokens) : token.kind ≠ .keyword := by
  intro hKind
  have hMarked : token ∈ tokens.filter isMarked := List.mem_filter.mpr ⟨hMem, by simp [isMarked, hKind]⟩
  rw [h.marked, parameters] at hMarked
  obtain ⟨_, _, rfl⟩ := List.mem_map.mp hMarked
  cases hKind

namespace TokenLine

/-- A line that begins with a keyword shows it in its canonical spelling, and in no other of the seven, exactly
if none of the two foreign letters spells an i in it. The capital one of them, and nothing else, makes the
line longer. Any other line has no such token and is shown as it stands, unless it is empty. -/
theorem shown_canonical_iff {line : Text} (hLine : .char '\n' ∉ line) :
    (∀ token ∈ (ofLine line).tokens, token.kind = .keyword →
      ∃ (keyword : Keyword) (spelling behind : Text), line = spelling ++ behind ∧
        Keyword.Spells keyword.canonical spelling ∧
        (token.text = keyword.canonical ↔ Keyword.dottedI ∉ spelling ∧ Keyword.dotlessI ∉ spelling) ∧
        (token.text ∈ Keyword.all.map Keyword.canonical ↔ token.text = keyword.canonical) ∧
        (ofLine line).text.length = line.length + spelling.count Keyword.dottedI) ∧
    (KeywordLine.Begins Keyword.all line ↔ ∃ token ∈ (ofLine line).tokens, token.kind = .keyword) ∧
    (¬ KeywordLine.Begins Keyword.all line → line ≠ [] → (ofLine line).text = line) := by
  have hShown := presents_ofLine hLine
  generalize ofLine line = shown at hShown ⊢
  have hPlain : ∀ text : Text, ∀ token ∈ [Token.mk .plain text], token.kind ≠ .keyword := by
    intro text token hMem hKind
    rw [List.mem_singleton.mp hMem] at hKind
    cases hKind
  cases hShown with
  | @keyword keyword spelling gap rest tokens hSpells hGap hBlank _ hTokens =>
      obtain ⟨hCanonical, hOther, hLength⟩ := Keyword.display_spec hSpells
      have hBegins := KeywordLine.begins_append keyword.mem_all hSpells hGap hBlank rest
      refine ⟨fun token hMem hKind => ?_, ⟨fun _ => ⟨_, List.mem_cons_self, rfl⟩, fun _ => hBegins⟩,
        fun hNot => absurd hBegins hNot⟩
      rcases List.mem_cons.mp hMem with rfl | hBehind
      · refine ⟨keyword, spelling, gap ++ rest, List.append_assoc _ _ _, hSpells, hCanonical, hOther, ?_⟩
        simp only [text, List.flatMap_cons, hTokens.complete, List.length_append, hLength]
        omega
      · rcases List.mem_cons.mp hBehind with rfl | hRest
        · cases hKind
        · exact absurd hKind (hTokens.kind_ne_keyword hRest)
  | plain hNot =>
      refine ⟨fun token hMem hKind => absurd hKind (hPlain line token hMem),
        ⟨fun hBegins => absurd hBegins hNot, ?_⟩, fun _ _ => by rw [text, List.flatMap_singleton]⟩
      rintro ⟨token, hMem, hKind⟩
      exact absurd hKind (hPlain line token hMem)
  | empty =>
      refine ⟨fun token hMem hKind => absurd hKind (hPlain _ token hMem), ⟨?_, ?_⟩,
        fun _ hText => absurd rfl hText⟩
      · rintro ⟨_, _, _, _, _, _, _, hNil⟩
        simp at hNil
      · rintro ⟨token, hMem, hKind⟩
        exact absurd hKind (hPlain _ token hMem)

/-- A scenario header that begins with a long s. -/
def longHeader : Text := "\u017FCENARiO: \"x\""

theorem long_s_is_shown_canonical : .char '\n' ∉ longHeader ∧
    (ofLine longHeader).tokens.head? = some ⟨.keyword, "Scenario:"⟩ ∧
    ∃ (keyword : Keyword) (spelling behind : Text), longHeader = spelling ++ behind ∧
      Keyword.Spells keyword.canonical spelling ∧ "Scenario:" = keyword.canonical ∧
      (ofLine longHeader).text.length = longHeader.length + spelling.count Keyword.dottedI := by
  have hLine : .char '\n' ∉ longHeader := by decide +kernel
  have hHead : (ofLine longHeader).tokens.head? = some ⟨.keyword, "Scenario:"⟩ := by decide +kernel
  obtain ⟨keyword, spelling, behind, hText, hSpells, hCanonical, hMem, hLength⟩ :=
    (shown_canonical_iff hLine).1 _ (List.mem_of_head? hHead) rfl
  exact ⟨hLine, hHead, keyword, spelling, behind, hText, hSpells, hMem.mp (by decide +kernel), hLength⟩

/-- A dotted capital is shown as two characters, of which the second one belongs to no keyword. -/
theorem dotted_keyword_is_lengthened :
    (ofLine "G\u0130VEN x").tokens.head? = some ⟨.keyword, "Gi\u0307ven"⟩ ∧
      ("Gi\u0307ven" : Text) ∉ Keyword.all.map Keyword.canonical ∧
      (ofLine "G\u0130VEN x").text.length = 8 ∧ ("G\u0130VEN x" : Text).length = 7 := by
  decide +kernel

end TokenLine

end ScenarioDesk
