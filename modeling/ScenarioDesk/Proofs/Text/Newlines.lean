import Mathlib.Data.List.Induction
import ScenarioDesk.Proofs.Text.Lines

/-! Line ends and trimming. Replacing pairs and then single carriage returns comes to the same as reading once
from left to right, which turns each line end into one line feed. Carriage returns and line feeds are both
blank, so the outer blanks of a text take whole line ends with them, and it does not matter whether a text is
trimmed before or after its line ends are unified. -/
namespace ScenarioDesk.Text

theorem dropPairedReturns_cons {c : CodePoint} {rest : Text}
    (h : ¬ (c = '\r' ∧ rest.head? = some (.char '\n'))) :
    dropPairedReturns (c :: rest) = c :: dropPairedReturns rest := by
  rw [dropPairedReturns]
  rintro others rfl rfl
  exact h ⟨rfl, rfl⟩

/-- The line ends of two texts side by side are unified one by one, unless the first text ends within a
line end that the second one completes. -/
theorem dropPairedReturns_append {first second : Text}
    (h : ¬ (first.getLast? = some (.char '\r') ∧ second.head? = some (.char '\n'))) :
    dropPairedReturns (first ++ second) = dropPairedReturns first ++ dropPairedReturns second := by
  fun_induction dropPairedReturns first with
  | case1 rest ih =>
      have hRest : ¬ (rest.getLast? = some (.char '\r') ∧ second.head? = some (.char '\n')) := by
        rintro ⟨hLast, hHead⟩
        refine h ⟨?_, hHead⟩
        rw [List.getLast?_cons, List.getLast?_cons, hLast]
        rfl
      rw [List.cons_append, List.cons_append, dropPairedReturns, ih hRest]
      rfl
  | case2 c rest hPair ih =>
      cases rest with
      | nil => exact dropPairedReturns_cons fun hEnd => h ⟨by rw [hEnd.1]; rfl, hEnd.2⟩
      | cons d rest =>
          have hSplit : ¬ (c = '\r' ∧ (d :: rest ++ second).head? = some (.char '\n')) := by
            rintro ⟨hReturn, hHead⟩
            exact hPair rest hReturn (congrArg (· :: rest) (Option.some.inj hHead))
          rw [List.cons_append, dropPairedReturns_cons hSplit, ih, List.cons_append]
          rwa [List.getLast?_cons_cons] at h
  | case3 => rfl

theorem normalizeNewlines_append {first second : Text}
    (h : ¬ (first.getLast? = some (.char '\r') ∧ second.head? = some (.char '\n'))) :
    normalizeNewlines (first ++ second) = normalizeNewlines first ++ normalizeNewlines second := by
  rw [normalizeNewlines, dropPairedReturns_append h, List.map_append]
  rfl

section Everywhere

variable {p : CodePoint → Bool}

/-- What holds of both characters of a line end holds throughout a text exactly if it holds throughout the
text with its line ends unified. -/
theorem all_normalizeNewlines (hReturn : p '\r' = true) (hFeed : p '\n' = true) (text : Text) :
    (normalizeNewlines text).all p = text.all p := by
  have hEach : p ∘ returnToNewline = p := by
    funext c
    rw [Function.comp_apply, returnToNewline]
    split
    · next hChar => rw [hChar, hReturn, hFeed]
    · rfl
  rw [normalizeNewlines, List.all_map, hEach]
  fun_induction dropPairedReturns text with
  | case1 rest ih => rw [List.all_cons, List.all_cons, List.all_cons, ih, hReturn, Bool.true_and]
  | case2 c rest _ ih => rw [List.all_cons, List.all_cons, ih]
  | case3 => rfl

end Everywhere

theorem isAllBlank_normalizeNewlines (text : Text) :
    isAllBlank (normalizeNewlines text) = isAllBlank text := all_normalizeNewlines rfl rfl text

theorem isWhole_normalizeNewlines (text : Text) :
    isWhole (normalizeNewlines text) = isWhole text := all_normalizeNewlines rfl rfl text

theorem normalizeNewlines_eq_self_iff {text : Text} : normalizeNewlines text = text ↔ .char '\r' ∉ text := by
  constructor
  · intro h
    rw [← h]
    exact return_not_mem_normalizeNewlines text
  · exact normalizeNewlines_eq_self

/-- Reading from left to right unifies the line ends as well. A carriage return that stands alone for the
one way stands alone for the other. -/
theorem universalNewlines_eq_normalizeNewlines (text : Text) :
    universalNewlines text = normalizeNewlines text := by
  unfold normalizeNewlines
  fun_induction universalNewlines text with
  | case1 => rfl
  | case2 rest ih =>
      rw [dropPairedReturns, List.map_cons, ← ih]
      rfl
  | case3 rest hPair ih =>
      have hAlone : rest.head? ≠ some (.char '\n') := by
        intro hHead
        obtain ⟨others, hRest⟩ := List.head?_eq_some_iff.mp hHead
        exact hPair others hRest
      rw [dropPairedReturns_cons fun h => hAlone h.2, List.map_cons, ← ih]
      rfl
  | case4 c rest hPair hOther ih =>
      rw [dropPairedReturns_cons fun h => hOther h.1, List.map_cons, ← ih, returnToNewline, if_neg hOther]

theorem universalNewlines_eq_self {text : Text} (h : .char '\r' ∉ text) : universalNewlines text = text := by
  rw [universalNewlines_eq_normalizeNewlines, normalizeNewlines_eq_self h]

/-- The second text is the first one with one line feed for each of its line ends: for a carriage return and
the line feed right behind it together, for a carriage return that stands alone, and for a line feed. Every
other character is kept. -/
inductive Unifies : Text → Text → Prop where
  | empty : Unifies [] []
  | pair {rest unified : Text} (h : Unifies rest unified) :
      Unifies (.char '\r' :: .char '\n' :: rest) (.char '\n' :: unified)
  | loneReturn {rest unified : Text} (hAlone : rest.head? ≠ some (.char '\n')) (h : Unifies rest unified) :
      Unifies (.char '\r' :: rest) (.char '\n' :: unified)
  | lineFeed {rest unified : Text} (h : Unifies rest unified) :
      Unifies (.char '\n' :: rest) (.char '\n' :: unified)
  | other {c : CodePoint} {rest unified : Text} (hReturn : c ≠ '\r') (hFeed : c ≠ '\n')
      (h : Unifies rest unified) : Unifies (c :: rest) (c :: unified)

theorem unifies_universalNewlines (text : Text) : Unifies text (universalNewlines text) := by
  fun_induction universalNewlines text with
  | case1 => exact .empty
  | case2 rest ih => exact .pair ih
  | case3 rest hPair ih =>
      refine .loneReturn ?_ ih
      intro hHead
      obtain ⟨others, hRest⟩ := List.head?_eq_some_iff.mp hHead
      exact hPair others hRest
  | case4 c rest hPair hOther ih =>
      by_cases hFeed : c = '\n'
      · rw [hFeed]
        exact .lineFeed ih
      · exact .other hOther hFeed ih

/-- There is only one way to unify the line ends of a text, since a carriage return either stands alone or
not. -/
theorem Unifies.eq_universalNewlines {text unified : Text} (h : Unifies text unified) :
    unified = universalNewlines text := by
  induction h with
  | empty => rfl
  | pair _ ih => rw [universalNewlines, ih]
  | loneReturn hAlone _ ih =>
      rw [universalNewlines, ih]
      rintro others rfl
      exact hAlone rfl
  | lineFeed _ ih =>
      rw [universalNewlines, ih]
      · rintro _ ⟨⟩
      · rintro ⟨⟩
  | other hReturn _ _ ih =>
      rw [universalNewlines, ih]
      · rintro _ rfl
        exact absurd rfl hReturn
      · exact hReturn

theorem unifies_iff {text unified : Text} : Unifies text unified ↔ unified = normalizeNewlines text := by
  rw [← universalNewlines_eq_normalizeNewlines]
  constructor
  · exact Unifies.eq_universalNewlines
  · rintro rfl
    exact unifies_universalNewlines text

/-- A text that neither begins nor ends with a blank keeps its first and its last character. -/
theorem trim_normalizeNewlines_of_trimmed {text : Text} (h : trim text = text) :
    trim (normalizeNewlines text) = normalizeNewlines text := by
  obtain ⟨hHead, hLast⟩ := trim_eq_self_iff.mp h
  have hInked : ∀ {c : CodePoint}, isBlank c = false → c ≠ '\r' ∧ c ≠ '\n' := by
    rintro c hBlank
    constructor
    · rintro rfl
      cases hBlank
    · rintro rfl
      cases hBlank
  have hSingle : ∀ {c : CodePoint}, isBlank c = false → normalizeNewlines [c] = [c] := by
    intro c hBlank
    apply normalizeNewlines_eq_self
    rw [List.mem_singleton]
    exact fun hReturn => (hInked hBlank).1 hReturn.symm
  refine trim_eq_self_iff.mpr ⟨?_, ?_⟩
  · cases text with
    | nil => exact nofun
    | cons c rest =>
        have hBlank := hHead c rfl
        have hCut := @normalizeNewlines_append [c] rest fun hPair => (hInked hBlank).1 (Option.some.inj hPair.1)
        rw [List.singleton_append, hSingle hBlank] at hCut
        rw [hCut]
        exact hHead
  · cases text using List.reverseRecOn with
    | nil => exact nofun
    | append_singleton rest c =>
        have hBlank := hLast c List.getLast?_concat
        have hCut := @normalizeNewlines_append rest [c] fun hPair => (hInked hBlank).2 (Option.some.inj hPair.2)
        rw [hCut, hSingle hBlank, List.getLast?_concat]
        rintro _ ⟨⟩
        exact hBlank

/-- Trimming and unifying line ends can change places. -/
theorem trim_normalizeNewlines (text : Text) :
    trim (normalizeNewlines text) = normalizeNewlines (trim text) := by
  obtain ⟨front, back, hFront, hBack, hText⟩ := exists_eq_append_trim text
  have hTrimmed := trim_normalizeNewlines_of_trimmed (trim_trim text)
  by_cases hBlank : isAllBlank text = true
  · rw [trim_eq_nil_iff.mpr hBlank]
    rw [← isAllBlank_normalizeNewlines] at hBlank
    exact trim_eq_nil_iff.mpr hBlank
  · have hCore : trim text ≠ [] := fun hNil => hBlank (trim_eq_nil_iff.mp hNil)
    obtain ⟨hHead, hLast⟩ := trim_eq_self_iff.mp (trim_trim text)
    -- Neither cut parts a line end, since the trimmed text has no blank on its side of it.
    have hAfter : ¬ (front.getLast? = some (.char '\r') ∧
        (trim text ++ back).head? = some (.char '\n')) := by
      rintro ⟨_, hFeed⟩
      rw [List.head?_append, Option.or_of_isSome (List.isSome_head?.mpr hCore)] at hFeed
      cases hHead _ hFeed
    have hBefore : ¬ ((trim text).getLast? = some (.char '\r') ∧ back.head? = some (.char '\n')) := by
      rintro ⟨hReturn, _⟩
      cases hLast _ hReturn
    rw [← isAllBlank_normalizeNewlines] at hFront hBack
    calc trim (normalizeNewlines text)
        = trim (normalizeNewlines front ++ (normalizeNewlines (trim text) ++ normalizeNewlines back)) := by
          rw [← normalizeNewlines_append hBefore, ← normalizeNewlines_append hAfter, ← List.append_assoc,
            ← hText]
      _ = trim (normalizeNewlines (trim text)) := by rw [trim_append_left hFront, trim_append_right hBack]
      _ = normalizeNewlines (trim text) := hTrimmed

/-- The two replacements, one after the other, unify the line ends of a text as the one scan from left to right
does. No carriage return is left, so doing it again changes nothing, and it makes no difference whether the text
is trimmed before or after. -/
theorem replacing_twice_is_one_scan (text : Text) :
    normalizeNewlines text = universalNewlines text ∧
      (∀ unified, Unifies text unified ↔ unified = normalizeNewlines text) ∧
      .char '\r' ∉ normalizeNewlines text ∧
      normalizeNewlines (normalizeNewlines text) = normalizeNewlines text ∧
      normalizeNewlines (trim text) = trim (normalizeNewlines text) := by
  have hNone := return_not_mem_normalizeNewlines text
  exact ⟨(universalNewlines_eq_normalizeNewlines text).symm, fun _ => unifies_iff, hNone,
    normalizeNewlines_eq_self hNone, (trim_normalizeNewlines text).symm⟩

/-- A return in front of a pair and one behind a line feed end lines of their own. -/
example : normalizeNewlines "a\r\r\n\n\rb" = "a\n\n\n\nb" := by decide

end ScenarioDesk.Text
