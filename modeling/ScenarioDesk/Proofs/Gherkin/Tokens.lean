import Mathlib.Data.List.Chain
import ScenarioDesk.Proofs.Gherkin.Spans

/-! What the tokens of a line are. The rest of a keyword line is divided at its double quotes, which pair
from the left; nothing is lost, and a token that is not plain reaches from one quote to the next. -/
namespace ScenarioDesk

namespace Text

/-- Where the double quote with a number stands. The first one has the number zero. -/
def quoteAt (text : Text) (number : Nat) : Nat := text.idxOfNth (.char '"') number

/-- The piece of a text from one position to another, both included. -/
def fromTo (text : Text) (first last : Nat) : Text := (text.take (last + 1)).drop first

/-- How many double quotes a text has. -/
def quotes (text : Text) : Nat := text.count (.char '"')

section Quotes

variable {front : Text}

theorem quotes_of_not_mem (h : .char '"' ∉ front) : quotes front = 0 := List.count_eq_zero.mpr h

theorem quotes_append (first second : Text) : quotes (first ++ second) = quotes first + quotes second :=
  List.count_append

theorem quotes_cons (rest : Text) : quotes (.char '"' :: rest) = quotes rest + 1 := List.count_cons_self

theorem quoteAt_zero (h : .char '"' ∉ front) (rest : Text) :
    quoteAt (front ++ .char '"' :: rest) 0 = front.length := by
  induction front with
  | nil => simp [quoteAt]
  | cons c others ih =>
      obtain ⟨hHead, hOthers⟩ := List.ne_and_not_mem_of_not_mem_cons h
      have ih := ih hOthers
      rw [quoteAt] at ih ⊢
      rw [List.cons_append, List.idxOfNth_cons_of_not_beq (by simpa using Ne.symm hHead), ih,
        List.length_cons]

theorem quoteAt_succ (h : .char '"' ∉ front) (rest : Text) (number : Nat) :
    quoteAt (front ++ .char '"' :: rest) (number + 1) = front.length + 1 + quoteAt rest number := by
  induction front with
  | nil =>
      rw [quoteAt, List.nil_append, List.idxOfNth_cons_succ_of_beq (by simp), ← quoteAt]
      simp [Nat.add_comm]
  | cons c others ih =>
      obtain ⟨hHead, hOthers⟩ := List.ne_and_not_mem_of_not_mem_cons h
      have ih := ih hOthers
      rw [quoteAt] at ih ⊢
      rw [List.cons_append, List.idxOfNth_cons_of_not_beq (by simpa using Ne.symm hHead), ih,
        List.length_cons]
      omega

theorem fromTo_append_left (front rest : Text) (first last : Nat) :
    fromTo (front ++ rest) (front.length + first) (front.length + last) = fromTo rest first last := by
  rw [fromTo, Nat.add_assoc, List.take_length_add_append, List.drop_length_add_append, fromTo]

theorem fromTo_middle (front middle back : Text) (c : CodePoint) :
    fromTo (front ++ (middle ++ c :: back)) front.length (front.length + middle.length) =
      middle ++ [c] := by
  have hBack : middle ++ c :: back = (middle ++ [c]) ++ back := List.append_cons middle c back
  have hLength : middle.length + 1 = (middle ++ [c]).length := by simp
  have h := fromTo_append_left front (middle ++ c :: back) 0 middle.length
  rw [Nat.add_zero] at h
  rw [h, fromTo, List.drop_zero, hLength, hBack, List.take_left]

end Quotes

end Text

namespace Token

/-- The pieces that lie between a first and a second quote, a third and a fourth, and so on. -/
def parameters (rest : Text) : List Token :=
  (List.range (Text.quotes rest / 2)).map fun number =>
    ⟨.parameter, Text.fromTo rest (Text.quoteAt rest (2 * number)) (Text.quoteAt rest (2 * number + 1))⟩

/-- Two neighbours are not both plain. -/
def Apart (token next : Token) : Prop := token.isMarked = true ∨ next.isMarked = true

/-- What the tokens of the rest of a keyword line are. -/
structure Accounts (rest : Text) (tokens : List Token) : Prop where
  complete : tokens.flatMap Token.text = rest
  nonempty : ∀ token ∈ tokens, token.text ≠ []
  marked : tokens.filter Token.isMarked = parameters rest
  apart : tokens.IsChain Apart
  paired : ∀ token ∈ tokens.dropLast, token.isMarked = false → .char '"' ∉ token.text
  unpaired : (∃ token ∈ tokens.getLast?, token.isMarked = false ∧ .char '"' ∈ token.text) ↔
    Text.quotes rest % 2 = 1

/-- How the rest of a keyword line is divided: up to the last one, quotes enclose parameters pair by pair,
and what is between the parameters is plain. -/
inductive Divides : Text → List Token → Prop
  | last {text : Text} (hText : Text.quotes text ≤ 1) : Divides text (plain? text)
  | pair {first inner rest : Text} {tokens : List Token} (hFirst : .char '"' ∉ first)
      (hInner : .char '"' ∉ inner) (hRest : Divides rest tokens) :
      Divides (first ++ .char '"' :: (inner ++ .char '"' :: rest))
        (plain? first ++ quoted inner :: tokens)

theorem parameters_of_quotes_le {text : Text} (h : Text.quotes text ≤ 1) : parameters text = [] := by
  rw [parameters, Nat.div_eq_of_lt (by omega), List.range_zero, List.map_nil]

section Pair

variable {first inner : Text} (hFirst : .char '"' ∉ first) (hInner : .char '"' ∉ inner) (rest : Text)
include hFirst hInner

theorem quotes_pair :
    Text.quotes (first ++ .char '"' :: (inner ++ .char '"' :: rest)) = Text.quotes rest + 2 := by
  rw [Text.quotes_append, Text.quotes_cons, Text.quotes_append, Text.quotes_cons,
    Text.quotes_of_not_mem hFirst, Text.quotes_of_not_mem hInner]
  omega

theorem quoteAt_pair (number : Nat) :
    Text.quoteAt (first ++ .char '"' :: (inner ++ .char '"' :: rest)) (number + 2) =
      (first ++ (quoted inner).text).length + Text.quoteAt rest number := by
  rw [Text.quoteAt_succ hFirst, Text.quoteAt_succ hInner]
  simp only [quoted, List.length_append, List.length_cons, List.length_nil]
  omega

/-- The first two quotes enclose the first parameter, and the others are found behind it. -/
theorem parameters_pair :
    parameters (first ++ .char '"' :: (inner ++ .char '"' :: rest)) =
      quoted inner :: parameters rest := by
  have hCount : (Text.quotes rest + 2) / 2 = Text.quotes rest / 2 + 1 := by omega
  have hHead : Text.fromTo (first ++ .char '"' :: (inner ++ .char '"' :: rest))
      (Text.quoteAt (first ++ .char '"' :: (inner ++ .char '"' :: rest)) 0)
      (Text.quoteAt (first ++ .char '"' :: (inner ++ .char '"' :: rest)) 1) = (quoted inner).text := by
    rw [Text.quoteAt_zero hFirst, Text.quoteAt_succ hFirst, Text.quoteAt_zero hInner, Nat.add_assoc,
      Nat.add_comm 1]
    exact Text.fromTo_middle first (.char '"' :: inner) rest '"'
  have hRest : first ++ .char '"' :: (inner ++ .char '"' :: rest) =
      (first ++ (quoted inner).text) ++ rest := by
    simp [quoted]
  rw [parameters, quotes_pair hFirst hInner, hCount, List.range_succ_eq_map, List.map_cons, hHead,
    List.map_map]
  refine congrArg _ (List.map_congr_left fun number _ => ?_)
  have hNumber : 2 * (number + 1) = 2 * number + 2 := by omega
  rw [Function.comp_apply, Nat.succ_eq_add_one, hNumber, quoteAt_pair hFirst hInner,
    Nat.add_right_comm, quoteAt_pair hFirst hInner, hRest, Text.fromTo_append_left]

end Pair

theorem mem_plain? {text : Text} {token : Token} :
    token ∈ plain? text ↔ text ≠ [] ∧ token = ⟨.plain, text⟩ := by
  unfold plain?
  split
  · next hNil => simp [hNil]
  · next hText => simp [hText]

namespace Divides

/-- The pieces between the quotes of a text divide it. -/
theorem ofPieces (first : Text) (others : List Text) (h : ∀ piece ∈ first :: others, .char '"' ∉ piece) :
    Divides (Text.join ['"'] (first :: others)) (Token.ofPieces first others) := by
  fun_induction Token.ofPieces first others with
  | case1 first =>
      refine .last ?_
      rw [Text.join, Text.quotes_of_not_mem (h first List.mem_cons_self)]
      exact Nat.zero_le 1
  | case2 first last =>
      have hJoin : Text.join ['"'] [first, last] = first ++ .char '"' :: last := by simp [Text.join]
      rw [hJoin]
      refine .last ?_
      rw [Text.quotes_append, Text.quotes_cons, Text.quotes_of_not_mem (h first List.mem_cons_self),
        Text.quotes_of_not_mem (h last (by simp))]
  | case3 first inner next others ih =>
      obtain ⟨hFirst, hRest⟩ := List.forall_mem_cons.mp h
      obtain ⟨hInner, hOthers⟩ := List.forall_mem_cons.mp hRest
      have hJoin : Text.join ['"'] (first :: inner :: next :: others) =
          first ++ .char '"' :: (inner ++ .char '"' :: Text.join ['"'] (next :: others)) := by
        simp [Text.join]
      rw [hJoin]
      exact .pair hFirst hInner (ih hOthers)

theorem ofRest (rest : Text) : Divides rest (Token.ofRest rest) := by
  have h := ofPieces _ _ (Text.separator_not_mem_of_mem_split rest)
  rwa [Text.join_split] at h

variable {rest : Text} {tokens : List Token}

theorem complete (h : Divides rest tokens) : tokens.flatMap Token.text = rest := by
  induction h with
  | last => exact text_plain? _
  | pair _ _ _ ih => simp [text_plain?, ih, quoted]

theorem marked (h : Divides rest tokens) : tokens.filter Token.isMarked = parameters rest := by
  induction h with
  | last hText => rw [Span.filter_isMarked_plain?, parameters_of_quotes_le hText]
  | pair hFirst hInner _ ih =>
      rw [List.filter_append, Span.filter_isMarked_plain?, List.nil_append, parameters_pair hFirst hInner,
        ← ih]
      rfl

theorem nonempty (h : Divides rest tokens) : ∀ token ∈ tokens, token.text ≠ [] := by
  have hPlain : ∀ text, ∀ token ∈ plain? text, token.text ≠ [] := by
    intro text token hMem
    obtain ⟨hText, rfl⟩ := mem_plain?.mp hMem
    exact hText
  induction h with
  | last => exact hPlain _
  | pair _ _ _ ih =>
      refine List.forall_mem_append.mpr ⟨hPlain _, List.forall_mem_cons.mpr ⟨?_, ih⟩⟩
      exact List.cons_ne_nil _ _

theorem apart (h : Divides rest tokens) : tokens.IsChain Apart := by
  induction h with
  | last =>
      unfold plain?
      split
      · exact .nil
      · exact .singleton _
  | @pair _ inner _ tokens _ _ _ ih =>
      have hQuoted : (quoted inner :: tokens).IsChain Apart :=
        List.isChain_cons.mpr ⟨fun _ _ => .inl rfl, ih⟩
      unfold plain?
      split
      · exact hQuoted
      · exact List.isChain_cons_cons.mpr ⟨.inr rfl, hQuoted⟩

/-- In front of the last token no plain one holds a quote. -/
theorem paired (h : Divides rest tokens) :
    ∀ token ∈ tokens.dropLast, token.isMarked = false → .char '"' ∉ token.text := by
  induction h with
  | last =>
      unfold plain?
      split <;> exact nofun
  | @pair first inner rest tokens hFirst _ _ ih =>
      rw [List.dropLast_append_cons]
      refine List.forall_mem_append.mpr ⟨fun token hMem _ => ?_, fun token hMem hPlain => ?_⟩
      · obtain ⟨_, rfl⟩ := mem_plain?.mp hMem
        exact hFirst
      · cases tokens with
        | nil => cases hMem
        | cons next tokens =>
            rcases List.mem_cons.mp hMem with rfl | hMem
            · cases hPlain
            · exact ih token hMem hPlain

/-- The last token holds a quote and is plain exactly if a quote is left without a partner. -/
theorem unpaired (h : Divides rest tokens) :
    (∃ token ∈ tokens.getLast?, token.isMarked = false ∧ .char '"' ∈ token.text) ↔
      Text.quotes rest % 2 = 1 := by
  induction h with
  | @last text hText =>
      have hCount : .char '"' ∈ text ↔ Text.quotes text % 2 = 1 := by
        rw [← List.count_pos_iff, ← Text.quotes]
        omega
      rw [← hCount]
      unfold plain?
      split
      · next hNil => simp [hNil]
      · simp [isMarked]
  | @pair first inner rest tokens hFirst hInner _ ih =>
      rw [quotes_pair hFirst hInner, Nat.add_mod_right, ← ih, List.getLast?_append, List.getLast?_cons]
      cases tokens.getLast? with
      | none => simp [quoted, isMarked]
      | some token => simp

theorem accounts (h : Divides rest tokens) : Accounts rest tokens :=
  ⟨h.complete, h.nonempty, h.marked, h.apart, h.paired, h.unpaired⟩

end Divides

end Token

namespace KeywordLine

theorem oneLine?_of_newline_not_mem {rest : Text} (h : .char '\n' ∉ rest) : oneLine? rest = some rest := by
  have hLast : rest.getLast? ≠ some '\n' := fun hLast => h (List.mem_of_getLast? hLast)
  rw [oneLine?, if_neg hLast]
  simp [h]

/-- A line without line feeds is shown as a keyword line exactly if it can be cut as one. -/
theorem ofLine?_eq_cut? {line : Text} (h : .char '\n' ∉ line) : ofLine? line = cut? Keyword.all line := by
  rw [ofLine?]
  cases hCut : cut? Keyword.all line with
  | none => rfl
  | some cut =>
      have hRest : .char '\n' ∉ cut.rest := by
        intro hMem
        rw [← (source_of_cut? hCut).1, source] at h
        exact h (List.mem_append_right _ hMem)
      show (oneLine? cut.rest).bind (fun rest => some { cut with rest := rest }) = some cut
      rw [oneLine?_of_newline_not_mem hRest]
      rfl

end KeywordLine

namespace TokenLine

/-- How a line is shown. One that begins with a keyword and a blank is shown as the keyword in display form,
all blanks behind it, and the tokens of its rest; any other line is shown as it stands, an empty one as a
no-break space. -/
inductive Presents : Text → TokenLine → Prop
  | keyword {keyword : Keyword} {spelling gap rest : Text} {tokens : List Token}
      (hSpelling : Keyword.Spells keyword.canonical spelling) (hGap : gap ≠ [])
      (hBlank : Text.isAllBlank gap = true) (hRest : ∀ c ∈ rest.head?, Text.isBlank c = false)
      (hTokens : Token.Accounts rest tokens) :
      Presents (spelling ++ gap ++ rest)
        ⟨⟨.keyword, Keyword.display spelling⟩ :: ⟨.plain, gap⟩ :: tokens⟩
  | plain {line : Text} (hLine : ¬ KeywordLine.Begins Keyword.all line) (hText : line ≠ []) :
      Presents line ⟨[⟨.plain, line⟩]⟩
  | empty : Presents [] ⟨[⟨.plain, Token.blankMarker⟩]⟩

/-- Every line without line feeds is shown so. -/
theorem presents_ofLine {line : Text} (h : .char '\n' ∉ line) : Presents line (ofLine line) := by
  rw [ofLine, KeywordLine.ofLine?_eq_cut? h]
  cases hCut : KeywordLine.cut? Keyword.all line with
  | some cut =>
      obtain ⟨_, hSpelling, hGap, hBlank, hRest, hLine⟩ := KeywordLine.cut?_eq_some_iff.mp hCut
      rw [hLine]
      exact .keyword hSpelling hGap hBlank hRest (Token.Divides.ofRest cut.rest).accounts
  | none =>
      by_cases hText : line = []
      · rw [hText]
        exact .empty
      · rw [if_neg hText]
        refine .plain (fun hBegins => ?_) hText
        obtain ⟨cut, hCut'⟩ := KeywordLine.exists_cut?_iff.mpr hBegins
        rw [hCut] at hCut'
        cases hCut'

/-- Tokens lose nothing of a line, and the coloured ones among them are its keyword and its parameters. A line
that begins with a keyword in any spelling and a blank is shown as that keyword in display form, the whole
run of blanks behind it, and tokens whose texts make up the rest. None of these is empty and no two plain
ones stand side by side. Those that are not plain are, in order, the pieces from a first quote to a second,
from a third to a fourth, and so on. A quote in a plain token is a last one without a partner, and then it is
in the last token. Any other line is one plain token, which is the line itself or stands for an empty one.
Every text is shown line by line, whatever its line ends are. -/
theorem tokens_account_for_line :
    (∀ line : Text, .char '\n' ∉ line → Presents line (ofLine line)) ∧
      ∀ text : Text, List.Forall₂ Presents (Text.normalizedLines text) (ofText text) := by
  refine ⟨fun line => presents_ofLine, fun text => ?_⟩
  rw [ofText, List.forall₂_map_right_iff, List.forall₂_same]
  exact fun line hLine => presents_ofLine (Text.newline_not_mem_of_mem_lines hLine)

/-- A step with two parameters, one of them empty, and a quote without a partner. -/
def quotedStep : Text := "gIVEN \t\"a b\"\"\" x \"y"

theorem quoted_step_is_accounted_for :
    .char '\n' ∉ quotedStep ∧ Presents quotedStep
      ⟨[⟨.keyword, "Given"⟩, ⟨.plain, " \t"⟩, ⟨.parameter, "\"a b\""⟩, ⟨.parameter, "\"\""⟩,
        ⟨.plain, " x \"y"⟩]⟩ := by
  have hLine : .char '\n' ∉ quotedStep := by decide +kernel
  have hShown : ofLine quotedStep =
      ⟨[⟨.keyword, "Given"⟩, ⟨.plain, " \t"⟩, ⟨.parameter, "\"a b\""⟩, ⟨.parameter, "\"\""⟩,
        ⟨.plain, " x \"y"⟩]⟩ := by decide +kernel
  refine ⟨hLine, ?_⟩
  rw [← hShown]
  exact tokens_account_for_line.1 quotedStep hLine

end TokenLine

end ScenarioDesk
