import ScenarioDesk.Gherkin.Span
import ScenarioDesk.Proofs.Gherkin.KeywordLines

/-! Tokens and spans of a line. Both pair the double quotes behind the keyword from the left, the tokens
by cutting the line into pieces and the spans by counting positions, so each token that is not plain
shows the part of the line that the span in its place covers. -/
namespace ScenarioDesk

namespace Text

/-- Cutting a text at a separator loses nothing. -/
theorem join_split (separator : CodePoint) (text : Text) :
    join [separator] ((split separator text).1 :: (split separator text).2) = text := by
  induction text with
  | nil => rfl
  | cons c rest ih =>
      by_cases h : c = separator
      · simp [split, h, join, ih]
      · cases hOthers : (split separator rest).2 with
        | nil => simp_all [split, join]
        | cons next others => simp_all [split, join]

end Text

namespace KeywordLine

theorem exists_append_of_oneLine? {rest body : Text} (h : oneLine? rest = some body) :
    ∃ back, rest = body ++ back := by
  simp only [oneLine?, Option.ite_none_left_eq_some, Option.some.injEq] at h
  obtain ⟨_, rfl⟩ := h
  split
  · next hLast => exact ⟨[.char '\n'], (List.dropLast_append_getLast? _ hLast).symm⟩
  · exact ⟨[], (List.append_nil rest).symm⟩

/-- What is left out of a keyword line stands behind it. -/
theorem exists_append_of_ofLine? {line : Text} {cut : KeywordLine} (h : ofLine? line = some cut) :
    cut.spelling ≠ [] ∧ ∃ back, line = cut.spelling ++ cut.gap ++ cut.rest ++ back := by
  simp only [ofLine?, Option.bind_eq_bind, Option.bind_eq_some_iff, Option.pure_def,
    Option.some.injEq] at h
  obtain ⟨whole, hCut, rest, hRest, rfl⟩ := h
  obtain ⟨back, hBack⟩ := exists_append_of_oneLine? hRest
  obtain ⟨hSource, _⟩ := source_of_cut? hCut
  have hSpelling := spelling_ne_nil_of_cut? hCut
  refine ⟨hSpelling, back, ?_⟩
  rw [← hSource, source, hBack, List.append_assoc _ rest]

end KeywordLine

/-- The token is coloured. -/
def Token.isMarked (token : Token) : Bool := token.kind ≠ .plain

namespace Span

/-- The position behind a span. -/
def stop (span : Span) : Nat := span.start + span.length

/-- The characters of a line that a span covers. -/
def slice (span : Span) (line : Text) : Text := (line.drop span.start).take span.length

/-- The token shows what the span covers, a keyword in its display form. -/
structure Shows (line : Text) (token : Token) (span : Span) : Prop where
  kind : token.kind = span.kind
  text : token.text =
    if span.kind = .keyword then Keyword.display (span.slice line) else span.slice line

theorem slice_append (kind : TokenKind) (front middle back : Text) :
    slice ⟨kind, front.length, middle.length⟩ (front ++ middle ++ back) = middle := by
  simp [slice]

section Quotes

variable {text : Text}

theorem quotePositions_of_not_mem (h : .char '"' ∉ text) (position : Nat) :
    quotePositions position text = [] := by
  induction text generalizing position with
  | nil => rfl
  | cons c rest ih =>
      obtain ⟨hHead, hRest⟩ := List.ne_and_not_mem_of_not_mem_cons h
      rw [quotePositions, if_neg (Ne.symm hHead), ih hRest]

theorem quotePositions_append (h : .char '"' ∉ text) (position : Nat) (rest : Text) :
    quotePositions position (text ++ .char '"' :: rest) =
      (position + text.length) :: quotePositions (position + text.length + 1) rest := by
  induction text generalizing position with
  | nil => simp [quotePositions]
  | cons c others ih =>
      obtain ⟨hHead, hOthers⟩ := List.ne_and_not_mem_of_not_mem_cons h
      rw [List.cons_append, quotePositions, if_neg (Ne.symm hHead), ih hOthers, List.length_cons,
        Nat.add_right_comm position 1, Nat.add_assoc position]

theorem quotePositions_bounds {position quote : Nat} (h : quote ∈ quotePositions position text) :
    position ≤ quote ∧ quote < position + text.length := by
  induction text generalizing position with
  | nil => simp [quotePositions] at h
  | cons c rest ih =>
      rw [quotePositions] at h
      rw [List.length_cons]
      split at h
      · rcases List.mem_cons.mp h with rfl | h
        · omega
        · have := ih h
          omega
      · have := ih h
        omega

theorem quotePositions_pairwise (position : Nat) (text : Text) :
    (quotePositions position text).Pairwise (· < ·) := by
  induction text generalizing position with
  | nil => exact .nil
  | cons c rest ih =>
      rw [quotePositions]
      split
      · exact .cons (fun quote hQuote => (quotePositions_bounds hQuote).1) (ih _)
      · exact ih _

/-- A parameter reaches from one quote to a later one. -/
theorem exists_of_mem_ofQuotes {quotes : List Nat} (h : quotes.Pairwise (· < ·)) {span : Span}
    (hSpan : span ∈ ofQuotes quotes) :
    span.start ∈ quotes ∧ ∃ quote ∈ quotes, span.start < quote ∧ span.stop = quote + 1 := by
  fun_induction ofQuotes quotes with
  | case1 first second others ih =>
      obtain ⟨hFirst, hRest⟩ := List.pairwise_cons.mp h
      rcases List.mem_cons.mp hSpan with rfl | hSpan
      · have hLt := hFirst second List.mem_cons_self
        refine ⟨List.mem_cons_self, second, by simp, hLt, ?_⟩
        simp only [stop]
        omega
      · obtain ⟨hStart, quote, hQuote, hStop⟩ := ih hRest.of_cons hSpan
        exact ⟨by simp [hStart], quote, by simp [hQuote], hStop⟩
  | case2 => cases hSpan

theorem ofQuotes_pairwise {quotes : List Nat} (h : quotes.Pairwise (· < ·)) :
    (ofQuotes quotes).Pairwise fun span later => span.stop ≤ later.start := by
  fun_induction ofQuotes quotes with
  | case1 first second others ih =>
      obtain ⟨hFirst, hRest⟩ := List.pairwise_cons.mp h
      obtain ⟨hSecond, hOthers⟩ := List.pairwise_cons.mp hRest
      refine .cons (fun later hLater => ?_) (ih hOthers)
      have hLt := hFirst second List.mem_cons_self
      have hStart := hSecond later.start (exists_of_mem_ofQuotes hOthers hLater).1
      simp only [stop]
      omega
  | case2 => exact .nil

/-- A parameter and its quotes are one span, and the next quotes are looked for behind it. -/
theorem ofQuotes_quoted {first inner : Text} (hFirst : .char '"' ∉ first) (hInner : .char '"' ∉ inner)
    (position : Nat) (tail : Text) :
    ofQuotes (quotePositions position (first ++ .char '"' :: (inner ++ .char '"' :: tail))) =
      ⟨.parameter, position + first.length, (Token.quoted inner).text.length⟩ ::
        ofQuotes (quotePositions (position + first.length + (Token.quoted inner).text.length) tail) := by
  have hStop : position + first.length + 1 + inner.length + 1 =
      position + first.length + (Token.quoted inner).text.length := by
    simp [Token.quoted]
    omega
  rw [quotePositions_append hFirst, quotePositions_append hInner, ofQuotes, hStop,
    Nat.add_sub_cancel_left]

end Quotes

theorem filter_isMarked_plain? (text : Text) : (Token.plain? text).filter Token.isMarked = [] := by
  unfold Token.plain?
  split <;> rfl

/-- The parameters among the tokens of pieces stand where the quotes between the pieces are. -/
theorem shows_ofPieces (before after first : Text) (others : List Text)
    (h : ∀ piece ∈ first :: others, .char '"' ∉ piece) :
    List.Forall₂ (Shows (before ++ Text.join ['"'] (first :: others) ++ after))
      ((Token.ofPieces first others).filter Token.isMarked)
      (ofQuotes (quotePositions before.length (Text.join ['"'] (first :: others)))) := by
  fun_induction Token.ofPieces first others generalizing before with
  | case1 first =>
      rw [Text.join, quotePositions_of_not_mem (h first List.mem_cons_self), filter_isMarked_plain?]
      exact .nil
  | case2 first last =>
      have hJoin : Text.join ['"'] [first, last] = first ++ .char '"' :: last := by simp [Text.join]
      rw [filter_isMarked_plain?, hJoin, quotePositions_append (h first List.mem_cons_self),
        quotePositions_of_not_mem (h last (by simp))]
      exact .nil
  | case3 first inner next others ih =>
      obtain ⟨hFirst, hRest⟩ := List.forall_mem_cons.mp h
      obtain ⟨hInner, hOthers⟩ := List.forall_mem_cons.mp hRest
      have ih := ih (before ++ first ++ (Token.quoted inner).text) hOthers
      generalize hTail : Text.join ['"'] (next :: others) = tail at ih
      have hJoin : Text.join ['"'] (first :: inner :: next :: others) =
          first ++ .char '"' :: (inner ++ .char '"' :: tail) := by
        simp [Text.join, ← hTail]
      have hLine : before ++ Text.join ['"'] (first :: inner :: next :: others) ++ after =
          before ++ first ++ (Token.quoted inner).text ++ tail ++ after := by
        simp [hJoin, Token.quoted]
      have hQuotes : ofQuotes (quotePositions before.length
            (Text.join ['"'] (first :: inner :: next :: others))) =
          ⟨.parameter, (before ++ first).length, (Token.quoted inner).text.length⟩ ::
            ofQuotes (quotePositions (before ++ first ++ (Token.quoted inner).text).length tail) := by
        simp only [hJoin, ofQuotes_quoted hFirst hInner, List.length_append]
      rw [hLine, hQuotes, List.filter_append, filter_isMarked_plain?, List.nil_append]
      refine .cons ⟨rfl, ?_⟩ ih
      rw [if_neg (by simp), List.append_assoc _ tail, slice_append]

/-- The tokens of a line that are not plain are, one by one, what its spans cover. -/
theorem shows_ofLine (line : Text) :
    List.Forall₂ (Shows line) ((TokenLine.ofLine line).tokens.filter Token.isMarked)
      (ofLine line) := by
  rw [TokenLine.ofLine, ofLine]
  cases hCut : KeywordLine.ofLine? line with
  | none => exact .nil
  | some cut =>
      obtain ⟨_, back, hLine⟩ := KeywordLine.exists_append_of_ofLine? hCut
      have hRest := shows_ofPieces (cut.spelling ++ cut.gap) back _ _
        (Text.separator_not_mem_of_mem_split cut.rest)
      rw [Text.join_split, ← hLine, List.length_append] at hRest
      refine .cons ⟨rfl, ?_⟩ hRest
      have hSlice := slice_append .keyword [] cut.spelling (cut.gap ++ cut.rest ++ back)
      rw [if_pos rfl, hLine, List.append_assoc, List.append_assoc, ← List.append_assoc cut.gap]
      exact congrArg Keyword.display hSlice.symm

/-- The spans of a line stand in it one behind the other, and none is empty. -/
theorem ofLine_bounds (line : Text) :
    (ofLine line).Pairwise (fun span later => span.stop ≤ later.start) ∧
      ∀ span ∈ ofLine line, span.start < span.stop ∧ span.stop ≤ line.length := by
  rw [ofLine]
  cases hCut : KeywordLine.ofLine? line with
  | none => simp
  | some cut =>
      obtain ⟨hSpelling, back, hLine⟩ := KeywordLine.exists_append_of_ofLine? hCut
      have hLength := congrArg List.length hLine
      simp only [List.length_append] at hLength
      have hQuotes := quotePositions_pairwise (cut.spelling.length + cut.gap.length) cut.rest
      have hSpans := @exists_of_mem_ofQuotes _ hQuotes
      have hPos := List.length_pos_of_ne_nil hSpelling
      constructor
      · refine .cons (fun later hLater => ?_) (ofQuotes_pairwise hQuotes)
        have hStart := (quotePositions_bounds (hSpans hLater).1).1
        simp only [stop]
        omega
      · intro span hSpan
        rcases List.mem_cons.mp hSpan with rfl | hSpan
        · simp only [stop]
          omega
        · obtain ⟨_, quote, hQuote, hLt, hStop⟩ := hSpans hSpan
          have hBounds := quotePositions_bounds hQuote
          omega

end Span

end ScenarioDesk
