import ScenarioDesk.Proofs.Gherkin.Spans
import ScenarioDesk.View.Preview

/-! The preview page as it is read. Reading markup parts the tags from the text between them and puts one
character in the place of each entity. What a user has written comes back from the page as text, and every
tag on the page is one of the program's own. -/
namespace ScenarioDesk

namespace Markup

/-- The tags of markup, each from its opening bracket to the next closing one, and what is left without
them, given the part of a tag that has been read. -/
def scan : Option Text → Text → List Text × Text
  | none, [] => ([], [])
  | some tag, [] => ([tag], [])
  | none, c :: rest =>
      if c = '<' then scan (some [c]) rest
      else ((scan none rest).1, c :: (scan none rest).2)
  | some tag, c :: rest =>
      if c = '>' then ((tag ++ [c]) :: (scan none rest).1, (scan none rest).2)
      else scan (some (tag ++ [c])) rest

/-- The tags of markup, in order. -/
def tags (markup : Text) : List Text := (scan none markup).1

/-- Markup without its tags. -/
def bare (markup : Text) : Text := (scan none markup).2

/-- The text that markup without tags stands for. Entities are read once, from left to right. -/
def decode : Text → Text
  | .char '&' :: .char 'a' :: .char 'm' :: .char 'p' :: .char ';' :: rest => '&' :: decode rest
  | .char '&' :: .char 'l' :: .char 't' :: .char ';' :: rest => '<' :: decode rest
  | .char '&' :: .char 'g' :: .char 't' :: .char ';' :: rest => '>' :: decode rest
  | .char '&' :: .char 'n' :: .char 'b' :: .char 's' :: .char 'p' :: .char ';' :: rest =>
      '\u00A0' :: decode rest
  | c :: rest => c :: decode rest
  | [] => []

theorem decode_cons {c : CodePoint} (h : c ≠ '&') (rest : Text) : decode (c :: rest) = c :: decode rest := by
  rw [decode]
  all_goals exact fun _ hChar _ => h hChar

theorem decode_escapeChar (c : CodePoint) (rest : Text) :
    decode (escapeChar c ++ rest) = c :: decode rest := by
  unfold escapeChar
  split
  · rfl
  · rfl
  · rfl
  · next hAnd _ _ => exact decode_cons hAnd rest

/-- Escaped text is read as the text that was escaped, whatever entities that spells itself. -/
theorem decode_escape (text : Text) : decode (escape text) = text := by
  induction text with
  | nil => rfl
  | cons c rest ih => rw [escape, List.flatMap_cons, ← escape, decode_escapeChar, ih]

/-- Markup without brackets that is read as a text. -/
structure IsText (text markup : Text) : Prop where
  brackets : .char '<' ∉ markup ∧ .char '>' ∉ markup
  decoded : decode markup = text

/-- No bracket is left in escaped text. -/
theorem isText_escape (text : Text) : IsText text (escape text) := by
  have hEach : ∀ c, .char '<' ∉ escapeChar c ∧ .char '>' ∉ escapeChar c := by
    intro c
    unfold escapeChar
    split
    · decide
    · decide
    · decide
    · next _ hLess hGreater =>
        rw [List.mem_singleton, List.mem_singleton]
        exact ⟨Ne.symm hLess, Ne.symm hGreater⟩
  refine ⟨?_, decode_escape text⟩
  simp only [escape, List.mem_flatMap, not_exists, not_and]
  exact ⟨fun c _ => (hEach c).1, fun c _ => (hEach c).2⟩

theorem isText_blankMarker : IsText Token.blankMarker "&nbsp;" :=
  ⟨by decide +kernel, by decide +kernel⟩

/-- Markup that is read as some tags and some text, whatever follows it. -/
def Reads (markup : Text) (tags : List Text) (bare : Text) : Prop :=
  ∀ rest, scan none (markup ++ rest) = (tags ++ (scan none rest).1, bare ++ (scan none rest).2)

namespace Reads

variable {markup : Text} {found : List Text} {text : Text}

theorem tags_eq (h : Reads markup found text) : tags markup = found := by
  have hEnd := h []
  rw [List.append_nil] at hEnd
  rw [tags, hEnd]
  exact List.append_nil found

theorem bare_eq (h : Reads markup found text) : bare markup = text := by
  have hEnd := h []
  rw [List.append_nil] at hEnd
  rw [bare, hEnd]
  exact List.append_nil text

theorem nil : Reads [] [] [] := fun _ => rfl

theorem append (h : Reads markup found text) {markup' : Text} {found' : List Text} {text' : Text}
    (h' : Reads markup' found' text') :
    Reads (markup ++ markup') (found ++ found') (text ++ text') := by
  intro rest
  rw [List.append_assoc, h, h', List.append_assoc, List.append_assoc]

theorem flatMap {α : Type} {items : List α} {markup : α → Text} {found : α → List Text} {text : α → Text}
    (h : ∀ item ∈ items, Reads (markup item) (found item) (text item)) :
    Reads (items.flatMap markup) (items.flatMap found) (items.flatMap text) := by
  induction items with
  | nil => exact nil
  | cons item items ih =>
      obtain ⟨hItem, hItems⟩ := List.forall_mem_cons.mp h
      rw [List.flatMap_cons, List.flatMap_cons, List.flatMap_cons]
      exact hItem.append (ih hItems)

/-- Without an opening bracket there is no tag. -/
theorem of_not_mem (h : .char '<' ∉ text) : Reads text [] text := by
  intro rest
  induction text with
  | nil => rfl
  | cons c others ih =>
      obtain ⟨hHead, hOthers⟩ := List.ne_and_not_mem_of_not_mem_cons h
      rw [List.cons_append, scan, if_neg (Ne.symm hHead), ih hOthers]
      rfl

end Reads

/-- The tag that opens a span for a kind of token. -/
def openSpan (kind : TokenKind) : Text := "<span class=\"" ++ kind.className ++ "\">"

/-- The tag that closes a span. -/
def closeSpan : Text := "</span>"

/-- The tag that opens the division of a line. -/
def openLine : Text := "<div class=\"line\">"

/-- The tag that closes a division. -/
def closeLine : Text := "</div>"

/-- The tags around a token. -/
def spanTags (token : Token) : List Text :=
  if token.isMarked then [openSpan token.kind, closeSpan] else []

theorem reads_openSpan (kind : TokenKind) : Reads (openSpan kind) [openSpan kind] [] := by
  cases kind <;> exact fun _ => rfl

theorem reads_closeSpan : Reads closeSpan [closeSpan] [] := fun _ => rfl

theorem reads_openLine : Reads openLine [openLine] [] := fun _ => rfl

theorem reads_closeLine : Reads closeLine [closeLine] [] := fun _ => rfl

theorem reads_escape (text : Text) : Reads (escape text) [] (escape text) :=
  .of_not_mem (isText_escape text).brackets.1

theorem reads_span (kind : TokenKind) (text : Text) :
    Reads (openSpan kind ++ escape text ++ closeSpan) [openSpan kind, closeSpan] (escape text) := by
  have h := ((reads_openSpan kind).append (reads_escape text)).append reads_closeSpan
  simpa using h

/-- A token is read as its text, between the tags of a span if it is coloured. -/
theorem reads_token (token : Token) : Reads token.markup (spanTags token) (escape token.text) := by
  obtain ⟨kind, text⟩ := token
  cases kind with
  | plain => exact reads_escape text
  | keyword => exact reads_span .keyword text
  | parameter => exact reads_span .parameter text

end Markup

/-- Markup shows a token: as its text, and between the tags of a span for its kind if it is coloured. -/
inductive Token.Renders : Token → Text → Prop
  | plain {token : Token} {markup : Text} (hPlain : token.isMarked = false)
      (hText : Markup.IsText token.text markup) : Renders token markup
  | marked {token : Token} {markup : Text} (hMarked : token.isMarked = true)
      (hText : Markup.IsText token.text markup) :
      Renders token (Markup.openSpan token.kind ++ markup ++ Markup.closeSpan)

theorem Token.renders_markup (token : Token) : Renders token token.markup := by
  obtain ⟨kind, text⟩ := token
  cases kind with
  | plain => exact .plain rfl (Markup.isText_escape text)
  | keyword => exact @Renders.marked ⟨.keyword, text⟩ _ rfl (Markup.isText_escape text)
  | parameter => exact @Renders.marked ⟨.parameter, text⟩ _ rfl (Markup.isText_escape text)

namespace TokenLine

/-- What stands in the division of a line. -/
def content (line : TokenLine) : Text :=
  if line.isBlank then "&nbsp;" else line.tokens.flatMap Token.markup

/-- Markup shows a line: its tokens one behind the other, each on its own. The tags in it are a pair around
each coloured token, so none stands within another, and what is left without them has no bracket and is
read as the line. -/
structure Renders (line : TokenLine) (markup : Text) : Prop where
  tokens : ∃ pieces, List.Forall₂ Token.Renders line.tokens pieces ∧ markup = pieces.flatten
  tags : Markup.tags markup =
    (line.tokens.filter Token.isMarked).flatMap fun token =>
      [Markup.openSpan token.kind, Markup.closeSpan]
  text : Markup.IsText line.text (Markup.bare markup)

theorem flatMap_spanTags (tokens : List Token) :
    tokens.flatMap Markup.spanTags =
      (tokens.filter Token.isMarked).flatMap fun token => [Markup.openSpan token.kind, Markup.closeSpan] := by
  induction tokens with
  | nil => rfl
  | cons token tokens ih =>
      rw [List.flatMap_cons, ih, Markup.spanTags, List.filter_cons]
      split
      · rw [List.flatMap_cons]
      · rfl

theorem flatMap_escape (line : TokenLine) :
    (line.tokens.flatMap fun token => Markup.escape token.text) = Markup.escape line.text := by
  rw [text, Markup.escape, List.flatMap_assoc]
  rfl

theorem tokens_of_isBlank {line : TokenLine} (h : line.isBlank = true) :
    line.tokens = [⟨.plain, Token.blankMarker⟩] := by
  rwa [isBlank, decide_eq_true_eq] at h

/-- A line is read as its tokens, the marker of a blank line as the no-break space it stands for. -/
theorem reads_content (line : TokenLine) :
    ∃ markup, Markup.Reads line.content (line.tokens.flatMap Markup.spanTags) markup ∧
      Markup.IsText line.text markup := by
  unfold content
  split
  · next hBlank =>
      rw [text, tokens_of_isBlank hBlank]
      exact ⟨"&nbsp;", .of_not_mem Markup.isText_blankMarker.brackets.1, Markup.isText_blankMarker⟩
  · have hReads := Markup.Reads.flatMap fun token (_ : token ∈ line.tokens) => Markup.reads_token token
    rw [flatMap_escape] at hReads
    exact ⟨_, hReads, Markup.isText_escape line.text⟩

theorem exists_pieces_content (line : TokenLine) :
    ∃ pieces, List.Forall₂ Token.Renders line.tokens pieces ∧ line.content = pieces.flatten := by
  unfold content
  split
  · next hBlank =>
      rw [tokens_of_isBlank hBlank]
      exact ⟨["&nbsp;"], .cons (.plain rfl Markup.isText_blankMarker) .nil, rfl⟩
  · refine ⟨line.tokens.map Token.markup, ?_, List.flatMap_def⟩
    rw [List.forall₂_map_right_iff, List.forall₂_same]
    exact fun token _ => token.renders_markup

theorem renders_content (line : TokenLine) : Renders line line.content := by
  obtain ⟨markup, hReads, hText⟩ := reads_content line
  refine ⟨exists_pieces_content line, ?_, ?_⟩
  · rw [hReads.tags_eq, flatMap_spanTags]
  · rwa [hReads.bare_eq]

/-- The division of a line is read as the line between the tags of the division. -/
theorem reads_markup (line : TokenLine) :
    Markup.Reads line.markup (Markup.openLine :: Markup.tags line.content ++ [Markup.closeLine])
      (Markup.bare line.content) := by
  obtain ⟨markup, hReads, _⟩ := reads_content line
  have hLine := (Markup.reads_openLine.append hReads).append Markup.reads_closeLine
  rw [List.nil_append, List.append_nil, ← hReads.tags_eq, ← hReads.bare_eq] at hLine
  exact hLine

end TokenLine

namespace Preview

/-- The page up to its body. -/
def opening (theme : Theme) : Text :=
  "\n    <html>\n      <head><style>" ++ theme.previewStyleSheet ++ "</style></head>\n      <body>"

/-- The page behind its body. -/
def closing : Text := "</body>\n    </html>\n    "

/-- The tags in front of the body. -/
def openingTags : List Text := ["<html>", "<head>", "<style>", "</style>", "</head>", "<body>"]

/-- The tags behind the body. -/
def closingTags : List Text := ["</body>", "</html>"]

theorem reads_opening (theme : Theme) : ∃ markup, Markup.Reads (opening theme) openingTags markup := by
  have hFront : Markup.Reads "\n    <html>\n      <head><style>" ["<html>", "<head>", "<style>"]
      "\n    \n      " := fun _ => rfl
  have hSheet : Markup.Reads theme.previewStyleSheet [] theme.previewStyleSheet :=
    .of_not_mem (by cases theme <;> decide +kernel)
  have hBack : Markup.Reads "</style></head>\n      <body>" ["</style>", "</head>", "<body>"]
      "\n      " := fun _ => rfl
  exact ⟨_, (hFront.append hSheet).append hBack⟩

theorem reads_closing : Markup.Reads closing closingTags "\n    \n    " := fun _ => rfl

/-- The preview shows a text as it is, whatever markup the text spells. The body of the page is one division
for each line. The only brackets between the tags of a division are those of the spans, one around each
coloured token of the line, and without them it is read as the line is displayed. The tags of the page are
those of its frame, of the divisions and of the spans, so none of them comes from the text. -/
theorem preview_shows_text_as_text (theme : Theme) (text : Text) (h : Text.isAllBlank text = false) :
    page theme text = opening theme ++ body text ++ closing ∧
      (body text = (TokenLine.ofText text).flatMap fun line =>
        Markup.openLine ++ line.content ++ Markup.closeLine) ∧
      (∀ line ∈ TokenLine.ofText text, TokenLine.Renders line line.content) ∧
      Markup.tags (page theme text) = openingTags ++
        ((TokenLine.ofText text).flatMap fun line =>
          Markup.openLine :: Markup.tags line.content ++ [Markup.closeLine]) ++ closingTags := by
  have hBody : body text = (TokenLine.ofText text).flatMap TokenLine.markup := by
    rw [body, if_neg (by rw [h]; decide)]
  refine ⟨rfl, hBody, fun line _ => TokenLine.renders_content line, ?_⟩
  obtain ⟨front, hOpening⟩ := reads_opening theme
  have hLines := Markup.Reads.flatMap fun line (_ : line ∈ TokenLine.ofText text) =>
    TokenLine.reads_markup line
  have hPage := (hOpening.append hLines).append reads_closing
  rw [← hBody] at hPage
  exact hPage.tags_eq

/-- Lines that spell markup, entities, and the marker of a blank line. -/
def hostileText : Text := "aNd <b>\"</span>&lt;\"\r\n&nbsp;\n\u00A0\n\n<div class=\"line\">"

theorem hostile_text_is_shown_as_text :
    Text.isAllBlank hostileText = false ∧
      Markup.tags (page .dark hostileText) = openingTags ++
        [Markup.openLine, Markup.openSpan .keyword, Markup.closeSpan, Markup.openSpan .parameter,
          Markup.closeSpan, Markup.closeLine] ++
        (List.replicate 4 [Markup.openLine, Markup.closeLine]).flatten ++ closingTags ∧
      (TokenLine.ofText hostileText).map (fun line => Markup.decode (Markup.bare line.content)) =
        ["And <b>\"</span>&lt;\"", "&nbsp;", "\u00A0", "\u00A0", "<div class=\"line\">"] := by
  have hText : Text.isAllBlank hostileText = false := by decide +kernel
  obtain ⟨_, _, hLines, hTags⟩ := preview_shows_text_as_text .dark hostileText hText
  refine ⟨hText, ?_, ?_⟩
  · rw [hTags]
    decide +kernel
  · rw [List.map_congr_left fun line hLine => (hLines line hLine).text.decoded]
    decide +kernel

end Preview

end ScenarioDesk
