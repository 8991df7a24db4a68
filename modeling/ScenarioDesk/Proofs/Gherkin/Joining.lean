import ScenarioDesk.Proofs.Gherkin.Partition

/-! Contents put together with an empty line between neighbours, and cut again. The cut finds them
exactly if each but the first begins with a header: one without a header goes on where the content in
front of it ends. -/
namespace ScenarioDesk.Block

/-- The content begins with a header. -/
def isHeaded (content : Text) : Bool := opens (Text.lines content)

/-- A content as a block has it: line feeds are its only line ends, it is not blank, and no line behind
the first is a header. -/
structure IsContent (content : Text) : Prop where
  plain : .char '\r' ∉ content
  inked : Text.isAllBlank content = false
  single : ∀ line ∈ (Text.lines content).tail, isBoundary line = false

theorem opens_map_trim (lines : List Text) : opens (lines.map Text.trim) = opens lines := by
  cases lines with
  | nil => rfl
  | cons line others => simp

theorem isHeaded_trim {content : Text} (h : isHeaded content = true) :
    isHeaded (Text.trim content) = true := by
  obtain ⟨above, below, hLines⟩ := Text.exists_map_trim_lines_eq content
  have hFirst : opens ((Text.lines content).map Text.trim) = true := by rwa [opens_map_trim]
  rw [hLines] at hFirst
  cases above with
  | zero =>
      rwa [List.replicate_zero, List.nil_append, opens_append (by simp [Text.lines_ne_nil]),
        opens_map_trim] at hFirst
  | succ above =>
      rw [List.replicate_succ] at hFirst
      cases hFirst

/-- The lines that trimming leaves behind the first one were behind the first one before. -/
theorem exists_mem_tail_lines {content line : Text}
    (h : line ∈ (Text.lines (Text.trim content)).tail) :
    ∃ other ∈ (Text.lines content).tail, Text.trim other = Text.trim line := by
  obtain ⟨above, below, hLines⟩ := Text.exists_map_trim_lines_eq content
  have hTrim : Text.trim line ∈ ((Text.lines (Text.trim content)).map Text.trim).tail := by
    rw [← List.map_tail]
    exact List.mem_map_of_mem h
  have hMem : Text.trim line ∈ ((Text.lines content).map Text.trim).tail := by
    have hLines' : (Text.lines (Text.trim content)).map Text.trim ≠ [] := by
      simp [Text.lines_ne_nil]
    rw [hLines]
    cases above with
    | zero =>
        rw [List.replicate_zero, List.nil_append, List.tail_append_of_ne_nil hLines']
        exact List.mem_append_left _ hTrim
    | succ above =>
        rw [List.replicate_succ, List.cons_append, List.cons_append, List.tail_cons]
        exact List.mem_append_left _ (List.mem_append_right _ (List.mem_of_mem_tail hTrim))
  rw [← List.map_tail] at hMem
  exact List.mem_map.mp hMem

theorem IsContent.trim {content : Text} (h : IsContent content) : IsContent (Text.trim content) where
  plain := fun hMem => h.plain (Text.mem_of_mem_trim hMem)
  inked := by rw [Text.isAllBlank_trim, h.inked]
  single := by
    intro line hLine
    obtain ⟨other, hOther, hSame⟩ := exists_mem_tail_lines hLine
    rw [← isBoundary_trim, ← hSame, isBoundary_trim, h.single other hOther]

/-- What the blocks of a text are like: each holds a content, and all but the first are headed. -/
theorem isContent_of_mem_ofText {text : Text} {block : Block} (h : block ∈ ofText text) :
    IsContent block.content := by
  obtain ⟨hMem, hInked⟩ := List.mem_filter.mp h
  obtain ⟨group, hGroup, rfl⟩ := List.mem_map.mp hMem
  have hCuts := cuts_groupLines (Text.normalizedLines text)
  refine ⟨fun hReturn => ?_, by simpa using hInked, ?_⟩
  · obtain ⟨line, hLine, hReturn⟩ := (Text.mem_unlines_iff (by decide)).mp hReturn
    have hText := (Text.mem_unlines_iff (by decide)).mpr
      ⟨line, mem_of_mem_groupLines hGroup hLine, hReturn⟩
    rw [Text.normalizedLines, Text.unlines_lines] at hText
    exact Text.return_not_mem_normalizeNewlines text hText
  · rw [lines_content_ofGroup hGroup]
    exact hCuts.whole group hGroup

theorem isHeaded_of_mem_tail_ofText {text : Text} {block : Block} (h : block ∈ (ofText text).tail) :
    isHeaded block.content = true := by
  obtain ⟨group, groups, hGroups⟩ := exists_groupLines_eq_cons text
  have hCuts := cuts_groupLines (Text.normalizedLines text)
  rw [hGroups] at hCuts
  have hMem : block ∈ groups.map ofGroup := by
    rw [ofText_eq_map hGroups] at h
    cases hBlank : group.all Text.isAllBlank with
    | false => simpa [hBlank] using h
    | true =>
        rw [hBlank] at h
        exact List.mem_of_mem_tail h
  obtain ⟨other, hOther, rfl⟩ := List.mem_map.mp hMem
  rw [isHeaded, lines_content_ofGroup (hGroups ▸ List.mem_cons_of_mem _ hOther)]
  exact hCuts.headed other hOther

/-- Contents as they stand in the text that joins them: a line feed ends each but the last. -/
def ended : List Text → List Text
  | [] => []
  | [content] => [content]
  | content :: next :: others => (content ++ [.char '\n']) :: ended (next :: others)

theorem lines_append_end (content : Text) :
    Text.lines (content ++ [.char '\n']) = Text.lines content ++ [[]] :=
  Text.lines_append_newline content []

theorem join_cons_cons (content next : Text) (others : List Text) :
    Text.join "\n\n" (content :: next :: others) =
      content ++ [.char '\n'] ++ .char '\n' :: Text.join "\n\n" (next :: others) := by
  rw [Text.join, List.append_assoc, List.append_assoc]
  rfl

theorem lines_join_cons_cons (content next : Text) (others : List Text) :
    Text.lines (Text.join "\n\n" (content :: next :: others)) =
      Text.lines (content ++ [.char '\n']) ++
        Text.lines (Text.join "\n\n" (next :: others)) := by
  rw [join_cons_cons, Text.lines_append_newline]

theorem opens_lines_join (content : Text) (others : List Text) :
    opens (Text.lines (Text.join "\n\n" (content :: others))) = isHeaded content := by
  cases others with
  | nil => rfl
  | cons next others =>
      rw [lines_join_cons_cons, lines_append_end, List.append_assoc,
        opens_append (Text.lines_ne_nil content), isHeaded]

theorem return_not_mem_join {contents : List Text} (h : ∀ content ∈ contents, .char '\r' ∉ content) :
    .char '\r' ∉ Text.join "\n\n" contents := by
  induction contents with
  | nil => exact nofun
  | cons content others ih =>
      obtain ⟨hContent, hOthers⟩ := List.forall_mem_cons.mp h
      cases others with
      | nil => exact hContent
      | cons next others =>
          rw [join_cons_cons]
          simp [hContent, ih hOthers]

theorem trim_append_end (content : Text) :
    Text.trim (content ++ [.char '\n']) = Text.trim content :=
  Text.trim_append_right (by decide) content

/-- An empty line behind a content has no title to give. -/
theorem titleOf_append_end {content : Text} (h : .char '\r' ∉ content) :
    titleOf (content ++ [.char '\n']) = titleOf content := by
  have hBoth : .char '\r' ∉ content ++ [.char '\n'] := by simp [h]
  rw [titleOf, titleOf, Text.normalizedLines, Text.normalizedLines, Text.normalizeNewlines_eq_self h,
    Text.normalizeNewlines_eq_self hBoth, lines_append_end, List.findSome?_append]
  congr 1
  exact Option.or_none

section Joined

variable {contents : List Text}

theorem map_trim_ended (contents : List Text) :
    (ended contents).map Text.trim = contents.map Text.trim := by
  induction contents with
  | nil => rfl
  | cons content others ih =>
      cases others with
      | nil => rfl
      | cons next others => rw [ended, List.map_cons, ih, trim_append_end, ← List.map_cons]

theorem map_titleOf_ended (h : ∀ content ∈ contents, .char '\r' ∉ content) :
    (ended contents).map titleOf = contents.map titleOf := by
  induction contents with
  | nil => rfl
  | cons content others ih =>
      obtain ⟨hContent, hOthers⟩ := List.forall_mem_cons.mp h
      cases others with
      | nil => rfl
      | cons next others =>
          rw [ended, List.map_cons, ih hOthers, titleOf_append_end hContent, ← List.map_cons]

theorem inked_of_mem_ended (h : ∀ content ∈ contents, Text.isAllBlank content = false) {part : Text}
    (hPart : part ∈ ended contents) : Text.isAllBlank part = false := by
  have hMem : Text.trim part ∈ contents.map Text.trim := by
    rw [← map_trim_ended]
    exact List.mem_map_of_mem hPart
  obtain ⟨content, hContent, hSame⟩ := List.mem_map.mp hMem
  rw [← Text.isAllBlank_trim, ← hSame, Text.isAllBlank_trim, h content hContent]

/-- The lines of the joined text are cut where the contents meet. -/
theorem cuts_join {content : Text} {others : List Text}
    (hEach : ∀ each ∈ content :: others, IsContent each)
    (hHeaded : ∀ other ∈ others, isHeaded other = true) :
    Cuts (Text.lines (Text.join "\n\n" (content :: others)))
      ((ended (content :: others)).map Text.lines) := by
  induction others generalizing content with
  | nil => exact .singleton (hEach content List.mem_cons_self).single
  | cons next others ih =>
      obtain ⟨hContent, hOthers⟩ := List.forall_mem_cons.mp hEach
      obtain ⟨hNext, hLater⟩ := List.forall_mem_cons.mp hHeaded
      have hEnded : ∀ line ∈ (Text.lines (content ++ [.char '\n'])).tail, isBoundary line = false := by
        rw [lines_append_end, List.tail_append_of_ne_nil (Text.lines_ne_nil content)]
        exact List.forall_mem_append.mpr ⟨hContent.single, by decide⟩
      have hOpens := (opens_lines_join next others).trans hNext
      rw [lines_join_cons_cons]
      exact Cuts.append (.singleton hEnded) (ih hOthers hLater) hOpens

/-- The blocks of the joined text are the contents, each with the end that joining gave it. -/
theorem ofText_join (hEach : ∀ content ∈ contents, IsContent content)
    (hHeaded : ∀ content ∈ contents.tail, isHeaded content = true) :
    ofText (Text.join "\n\n" contents) =
      (ended contents).map fun content => ⟨titleOf content, content⟩ := by
  cases contents with
  | nil => rfl
  | cons content others =>
      have hReturn := return_not_mem_join fun each hMem => (hEach each hMem).plain
      have hGroups := (cuts_join hEach hHeaded).eq_groupLines
      rw [ofText, Text.normalizedLines, Text.normalizeNewlines_eq_self hReturn, ← hGroups, List.map_map]
      have hBlocks : ofGroup ∘ Text.lines = fun each => ⟨titleOf each, each⟩ := by
        funext each
        simp [ofGroup, Text.unlines_lines]
      rw [hBlocks]
      apply List.filter_eq_self.mpr
      intro block hBlock
      obtain ⟨part, hPart, rfl⟩ := List.mem_map.mp hBlock
      simp [inked_of_mem_ended (fun each hMem => (hEach each hMem).inked) hPart]

end Joined

/-- Contents as the joined text shows them: one without a header in front goes on where the content in
front of it ends. -/
def rejoined : List Text → List Text
  | [] => []
  | content :: others =>
    match rejoined others with
    | [] => [content]
    | next :: later =>
      if isHeaded next then content :: next :: later
      else Text.join "\n\n" [content, next] :: later

section Rejoined

theorem rejoined_eq_nil_iff {contents : List Text} : rejoined contents = [] ↔ contents = [] := by
  cases contents with
  | nil => simp [rejoined]
  | cons content others =>
      rw [rejoined]
      split
      · simp
      · split <;> simp

/-- The text is the same. -/
theorem join_rejoined (contents : List Text) :
    Text.join "\n\n" (rejoined contents) = Text.join "\n\n" contents := by
  induction contents with
  | nil => rfl
  | cons content others ih =>
      rw [rejoined]
      split
      · next hNone => rw [rejoined_eq_nil_iff.mp hNone]
      · next next later hOthers =>
          rw [hOthers] at ih
          cases others with
          | nil => cases hOthers
          | cons other others =>
              rw [join_cons_cons content other, ← ih]
              split
              · exact join_cons_cons content next later
              · cases later with
                | nil => exact join_cons_cons content next []
                | cons second later =>
                    rw [join_cons_cons, join_cons_cons content next [], join_cons_cons next]
                    simp [Text.join]

theorem isHeaded_of_mem_tail_rejoined {contents : List Text} :
    ∀ content ∈ (rejoined contents).tail, isHeaded content = true := by
  induction contents with
  | nil => exact nofun
  | cons content others ih =>
      rw [rejoined]
      split
      · exact nofun
      · next next later hOthers =>
          rw [hOthers] at ih
          split
          · next hNext => exact List.forall_mem_cons.mpr ⟨hNext, ih⟩
          · exact ih

/-- Contents that are all headed but for the first stay as they are. -/
theorem rejoined_eq_self {contents : List Text}
    (h : ∀ content ∈ contents.tail, isHeaded content = true) : rejoined contents = contents := by
  induction contents with
  | nil => rfl
  | cons content others ih =>
      have hOthers : rejoined others = others := ih fun other hMem => h other (List.mem_of_mem_tail hMem)
      rw [rejoined, hOthers]
      cases others with
      | nil => rfl
      | cons next later => simp [h next List.mem_cons_self]

/-- A property that joining with a content that is not headed keeps is kept by rejoining. -/
theorem forall_mem_rejoined {property : Text → Prop} {contents : List Text}
    (h : ∀ content ∈ contents, property content)
    (hJoin : ∀ content next, property content → property next → isHeaded next = false →
      property (Text.join "\n\n" [content, next])) :
    ∀ content ∈ rejoined contents, property content := by
  induction contents with
  | nil => exact nofun
  | cons content others ih =>
      obtain ⟨hContent, hOthers⟩ := List.forall_mem_cons.mp h
      have hRest := ih hOthers
      rw [rejoined]
      split
      · simpa using hContent
      · next next later hLater =>
          rw [hLater] at hRest
          obtain ⟨hNext, hLast⟩ := List.forall_mem_cons.mp hRest
          split
          · exact List.forall_mem_cons.mpr ⟨hContent, hRest⟩
          · next hHeaded =>
              exact List.forall_mem_cons.mpr
                ⟨hJoin content next hContent hNext (Bool.eq_false_iff.mpr hHeaded), hLast⟩

theorem IsContent.join {content next : Text} (hContent : IsContent content) (hNext : IsContent next)
    (hHeaded : isHeaded next = false) : IsContent (Text.join "\n\n" [content, next]) where
  plain := return_not_mem_join (by simp [hContent.plain, hNext.plain])
  inked := by
    rw [join_cons_cons, List.append_assoc, Text.isAllBlank_append, hContent.inked, Bool.false_and]
  single := by
    rw [lines_join_cons_cons, lines_append_end, List.append_assoc,
      List.tail_append_of_ne_nil (Text.lines_ne_nil content)]
    -- the first line of the second content is a line behind the first one now
    have hLines : ∀ line ∈ Text.lines next, isBoundary line = false :=
      List.forall_mem_cons.mpr ⟨hHeaded, hNext.single⟩
    exact List.forall_mem_append.mpr
      ⟨hContent.single, List.forall_mem_cons.mpr ⟨by decide, hLines⟩⟩

theorem trim_join {content next : Text}
    (hContent : Text.trim content = content ∧ content ≠ []) (hNext : Text.trim next = next ∧ next ≠ []) :
    Text.trim (Text.join "\n\n" [content, next]) = Text.join "\n\n" [content, next] :=
  Text.trim_append_between hContent.1 hNext.1 hContent.2 hNext.2 _

/-- The blocks of the joined text, trimmed, are the contents as the text shows them. -/
theorem map_trim_ofText_join {contents : List Text} (hEach : ∀ content ∈ contents, IsContent content)
    (hTrimmed : ∀ content ∈ contents, Text.trim content = content) :
    (ofText (Text.join "\n\n" contents)).map (fun block => Text.trim block.content) =
      rejoined contents := by
  have hContents := forall_mem_rejoined hEach fun _ _ hContent hNext => hContent.join hNext
  have hTrim : ∀ content ∈ rejoined contents, Text.trim content = content ∧ content ≠ [] := by
    apply forall_mem_rejoined
    · intro content hMem
      refine ⟨hTrimmed content hMem, ?_⟩
      rintro rfl
      cases (hEach [] hMem).inked
    · intro content next hContent hNext _
      refine ⟨trim_join hContent hNext, ?_⟩
      rw [join_cons_cons, List.append_assoc]
      exact List.append_ne_nil_of_left_ne_nil hContent.2 _
  rw [← join_rejoined, ofText_join hContents isHeaded_of_mem_tail_rejoined, List.map_map]
  exact (map_trim_ended _).trans ((List.map_congr_left fun content hMem => (hTrim content hMem).1).trans
    (List.map_id _))

end Rejoined

end ScenarioDesk.Block
