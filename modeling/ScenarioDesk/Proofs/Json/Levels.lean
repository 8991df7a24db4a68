import ScenarioDesk.Json.Shown
import ScenarioDesk.Proofs.Json.Limits

/-! How many levels a text needs. More of them only ever help: what is left to the reader decides nothing
but whether the text is refused for it. So there is one value that a text is read as, if it is read. -/
namespace ScenarioDesk.Json

/-- With fewer levels the same is read, or too few of them is the refusal. -/
def AgreesWith {α : Type} (few many : Except Refusal α) : Prop :=
  few = many ∨ ∃ excess, few = .error (.tooDeep excess)

section Agreement

variable {α β : Type} {few many : Except Refusal α}

theorem AgreesWith.refl (read : Except Refusal α) : AgreesWith read read := .inl rfl

theorem AgreesWith.bind (h : AgreesWith few many) {next later : α → Except Refusal β}
    (hNext : ∀ found, AgreesWith (next found) (later found)) :
    AgreesWith (few >>= next) (many >>= later) := by
  rcases h with rfl | ⟨excess, rfl⟩
  · cases few with
    | error refusal => exact .refl _
    | ok found => exact hNext found
  · exact .inr ⟨excess, rfl⟩

theorem AgreesWith.map (h : AgreesWith few many) (wrap : α → β) :
    AgreesWith (few >>= fun found => pure (wrap found)) (many >>= fun found => pure (wrap found)) :=
  h.bind fun _ => .refl _

end Agreement

/-- A fault that is reported with fewer levels left is the same fault, or there are too few to report it. -/
theorem agreesWith_reportedAt {α : Type} {few many : Nat} (hLevels : few ≤ many) (refusal : Refusal) :
    @AgreesWith α (.error (refusal.reportedAt few)) (.error (refusal.reportedAt many)) := by
  cases refusal with
  | malformed reason rest =>
      by_cases hFew : few < faultDepth
      · refine .inr ⟨.call, ?_⟩
        rw [Refusal.reportedAt, if_pos hFew]
      · refine .inl ?_
        rw [Refusal.reportedAt, Refusal.reportedAt, if_neg hFew, if_neg (by omega)]
  | hugeInteger digits => exact .refl _
  | tooDeep excess => exact .refl _

theorem agreesWith_readStringWithin {few many : Nat} (hLevels : few ≤ many) (opening : Text) :
    AgreesWith (readStringWithin few opening) (readStringWithin many opening) := by
  unfold readStringWithin
  cases readString opening with
  | error refusal => exact agreesWith_reportedAt hLevels refusal
  | ok found => exact .refl _

/-- Every part of a text is read as the same with more levels left, unless there were too few. -/
theorem agreesWith (steps : Nat) :
    (∀ few many text, few ≤ many → AgreesWith (readValue steps few text) (readValue steps many text)) ∧
    (∀ few many text, few ≤ many → AgreesWith (readItems steps few text) (readItems steps many text)) ∧
    ∀ few many fields text, few ≤ many →
      AgreesWith (readFields steps few fields text) (readFields steps many fields text) := by
  induction steps with
  | zero => exact ⟨fun _ _ _ _ => .refl _, fun _ _ _ _ => .refl _, fun _ _ _ _ _ => .refl _⟩
  | succ steps ih =>
      obtain ⟨hValue, hItems, hFields⟩ := ih
      refine ⟨fun few many text hLevels => ?_, fun few many text hLevels => ?_,
        fun few many fields text hLevels => ?_⟩
      · unfold readValue
        split
        · exact (agreesWith_readStringWithin hLevels _).map _
        · cases few with
          | zero => exact .inr ⟨.array, rfl⟩
          | succ few =>
              obtain ⟨many, rfl⟩ := Nat.exists_eq_succ_of_ne_zero (Nat.ne_zero_of_lt hLevels)
              dsimp only
              split
              · exact .refl _
              · exact (hItems few many _ (Nat.le_of_succ_le_succ hLevels)).map _
        · cases few with
          | zero => exact .inr ⟨.object, rfl⟩
          | succ few =>
              obtain ⟨many, rfl⟩ := Nat.exists_eq_succ_of_ne_zero (Nat.ne_zero_of_lt hLevels)
              dsimp only
              split
              · exact .refl _
              · exact (hFields few many _ _ (Nat.le_of_succ_le_succ hLevels)).map _
        · split
          · next found _ =>
              by_cases hFew : isNumber found.1 ∧ few = 0
              · rw [if_pos hFew]
                exact .inr ⟨.call, rfl⟩
              · rw [if_neg hFew, if_neg fun hMany => hFew ⟨hMany.1, by omega⟩]
                exact .refl _
          · exact .refl _
      · unfold readItems
        refine (hValue few many text hLevels).bind fun found => ?_
        dsimp only
        split
        · exact .refl _
        · exact (hItems few many _ hLevels).map _
        · exact agreesWith_reportedAt hLevels _
      · unfold readFields
        split
        · refine (agreesWith_readStringWithin hLevels _).bind fun found => ?_
          dsimp only
          split
          · refine (hValue few many _ hLevels).bind fun read => ?_
            split
            · exact .refl _
            · exact hFields few many _ _ hLevels
            · exact agreesWith_reportedAt hLevels _
          · exact agreesWith_reportedAt hLevels _
        · exact agreesWith_reportedAt hLevels _

theorem agreesWith_readAll {few many : Nat} (hLevels : few ≤ many) (text : Text) :
    AgreesWith (readAll few text) (readAll many text) := by
  unfold readAll
  split
  · exact .refl _
  · exact ((agreesWith (2 * text.length + 2)).1 few many _ hLevels).bind fun found => .refl _

/-! ## Whole texts -/

theorem deepest_le (level : Nat) (text : Text) : deepest level text ≤ level + text.length := by
  induction text generalizing level with
  | nil => exact Nat.le_refl level
  | cons c rest ih =>
      have hOpened := ih (level + 1)
      have hClosed := ih (level - 1)
      have hSame := ih level
      rw [deepest, List.length_cons]
      split
      · omega
      · split
        · omega
        · omega

theorem length_bareFrom_le (inString : Bool) (text : Text) : (bareFrom inString text).length ≤ text.length := by
  fun_induction bareFrom inString text with
  | case1 => exact Nat.le_refl _
  | case2 c rest ih => exact Nat.succ_le_succ ih
  | case3 c rest ih => exact Nat.le_succ_of_le (Nat.le_succ_of_le ih)
  | case4 rest _ ih => exact Nat.succ_le_succ ih
  | case5 c rest hSlash hQuote ih => exact Nat.le_succ_of_le ih

/-- A text is never refused for its depth if there are as many levels as it has characters, and those to
report a fault. -/
theorem read_ne_tooDeep (text : Text) (excess : Excess) : read text ≠ .error (.tooDeep excess) := by
  intro hRead
  have hDeep := lt_deepest_of_readWithin hRead
  have hDeepest := deepest_le 0 (bare text)
  have hLength : (bare text).length ≤ text.length := length_bareFrom_le false text
  omega

/-- However many levels are left, a text is read as what it is read as with enough of them, or it is
refused for too few. -/
theorem readWithin_eq_read (depth : Nat) (text : Text) :
    readWithin depth text = read text ∨ ∃ excess, readWithin depth text = .error (.tooDeep excess) := by
  by_cases hLevels : depth ≤ text.length + faultDepth
  · rcases agreesWith_readAll hLevels text with hSame | ⟨excess, hDeep⟩
    · exact .inl (congrArg (Except.mapError (Refusal.locate text)) hSame)
    · exact .inr ⟨excess, congrArg (Except.mapError (Refusal.locate text)) hDeep⟩
  · rcases agreesWith_readAll (Nat.le_of_not_le hLevels) text with hSame | ⟨excess, hDeep⟩
    · exact .inl (congrArg (Except.mapError (Refusal.locate text)) hSame).symm
    · exact absurd (congrArg (Except.mapError (Refusal.locate text)) hDeep) (read_ne_tooDeep text excess)

/-- What can be read at all is read within any limits that it is not beyond. -/
theorem readWithin_of_not_beyondLimits {depth : Nat} {text : Text} (h : ¬ BeyondLimits depth text) :
    readWithin depth text = read text := by
  rcases readWithin_eq_read depth text with hSame | ⟨excess, hDeep⟩
  · exact hSame
  · exact absurd ⟨_, hDeep, rfl⟩ h

theorem readWithin_of_beyondLimits {depth : Nat} {text : Text} {value : Json} (hRead : read text = .ok value)
    (h : BeyondLimits depth text) : ∃ excess, readWithin depth text = .error (.tooDeep excess) := by
  rcases readWithin_eq_read depth text with hSame | hDeep
  · exact absurd h (not_beyondLimits_of_readWithin (hSame.trans hRead))
  · exact hDeep

/-! ## Arrays within arrays -/

/-- An array with nothing in it but another one, and so on. The argument says how many lie in it. -/
def nested : Nat → Json
  | 0 => .array []
  | inner + 1 => .array [nested inner]

/-- Its text. -/
def nestedText (inner : Nat) : Text :=
  List.replicate (inner + 1) (.char '[') ++ List.replicate (inner + 1) (.char ']')

theorem levels_nested (inner : Nat) : (nested inner).levels = inner + 1 := by
  induction inner with
  | zero => rfl
  | succ inner ih => simp [nested, levels, levelsOfItems, ih]

theorem nestedText_succ_append (inner : Nat) (rest : Text) :
    nestedText (inner + 1) ++ rest = .char '[' :: (nestedText inner ++ .char ']' :: rest) := by
  have hBack : List.replicate (inner + 1 + 1) (CodePoint.char ']') =
      List.replicate (inner + 1) (.char ']') ++ [.char ']'] := List.replicate_succ'
  rw [nestedText, hBack, nestedText, List.replicate_succ]
  simp

theorem readValue_nestedText {inner steps depth : Nat} (hSteps : 2 * inner < steps) (hDepth : inner < depth)
    (rest : Text) : readValue steps depth (nestedText inner ++ rest) = .ok (nested inner, rest) := by
  induction inner generalizing steps depth rest with
  | zero =>
      obtain ⟨steps, rfl⟩ := Nat.exists_eq_succ_of_ne_zero (Nat.ne_zero_of_lt hSteps)
      obtain ⟨depth, rfl⟩ := Nat.exists_eq_succ_of_ne_zero (Nat.ne_zero_of_lt hDepth)
      rfl
  | succ inner ih =>
      obtain ⟨steps, rfl⟩ := Nat.exists_eq_add_of_le' (show 2 ≤ steps by omega)
      obtain ⟨depth, rfl⟩ := Nat.exists_eq_succ_of_ne_zero (Nat.ne_zero_of_lt hDepth)
      have hFirst : ∀ after, skipSpace (nestedText inner ++ after) = nestedText inner ++ after := by
        intro after
        rw [nestedText, List.replicate_succ, List.cons_append, List.cons_append, skipSpace_cons (by decide)]
      have hItem := @ih steps depth (by omega) (by omega) (.char ']' :: rest)
      rw [nestedText_succ_append]
      refine readValue_array ?_ ?_
      · intro after
        rw [hFirst, nestedText, List.replicate_succ]
        nofun
      · rw [hFirst]
        exact readItems_last hItem (skipSpace_cons (by decide) rest)

theorem read_nestedText (inner : Nat) : read (nestedText inner) = .ok (nested inner) := by
  have hLength : (nestedText inner).length = 2 * (inner + 1) := by
    rw [nestedText, List.length_append, List.length_replicate, List.length_replicate]
    omega
  have hHead : nestedText inner = .char '[' :: (nestedText inner).tail := rfl
  have hMark : (nestedText inner).head? ≠ some (.char '\uFEFF') := by
    rw [hHead]
    nofun
  have hSkip : skipSpace (nestedText inner) = nestedText inner ++ [] := by
    rw [List.append_nil, hHead, skipSpace_cons (by decide)]
  rw [read, readWithin, readAll, if_neg hMark, hSkip,
    readValue_nestedText (by omega) (by omega)]
  rfl

end ScenarioDesk.Json
