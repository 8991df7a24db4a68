import ScenarioDesk.Proofs.Json.StringRoundTrip

/-! Values that were written are read back. Each kind of value is read back if its parts are, so what
is known of the kinds at hand carries over to any nesting of them. Numbers are not covered. -/
namespace ScenarioDesk.Json

/-- What may follow a value within a written text. -/
def Ends (rest : Text) : Prop := ∀ c ∈ rest.head?, c = ',' ∨ c = '\n'

/-- The value is read back from how it is written at any level. The number of steps only has to exceed
the length of what is read. -/
structure ReadsBack (depth : Nat) (value : Json) : Prop where
  starts : ∀ level, ∃ c more, renderAt level value = c :: more ∧ IsPlain c ∧ isSpace c = false ∧
    c ≠ ']'
  reads : ∀ level steps rest, (renderAt level value).length < steps → Ends rest →
    readValue steps depth (renderAt level value ++ rest) = .ok (value, rest)

theorem skipSpace_cons {c : CodePoint} (h : isSpace c = false) (rest : Text) :
    skipSpace (c :: rest) = c :: rest := by
  rw [skipSpace, List.dropWhile_cons_of_neg (by simp [h])]

theorem skipSpace_space (rest : Text) : skipSpace (.char ' ' :: rest) = skipSpace rest := rfl

theorem skipSpace_newline (level : Nat) (rest : Text) :
    skipSpace (newline level ++ rest) = skipSpace rest := by
  have hSpaces : ∀ c ∈ newline level, isSpace c = true := by
    intro c hMem
    rcases List.mem_cons.mp hMem with rfl | hBlank
    · rfl
    · rw [List.eq_of_mem_replicate hBlank]
      rfl
  rw [skipSpace, List.dropWhile_append_of_pos hSpaces, skipSpace]

theorem ReadsBack.skipSpace_eq {depth : Nat} {value : Json} (h : ReadsBack depth value)
    (level : Nat) (rest : Text) :
    skipSpace (renderAt level value ++ rest) = renderAt level value ++ rest := by
  obtain ⟨c, more, hText, _, hSpace, _⟩ := h.starts level
  rw [hText, List.cons_append, skipSpace_cons hSpace]

theorem ends_newline (level : Nat) (rest : Text) : Ends (newline level ++ rest) := by
  intro c hMem
  cases hMem
  exact .inr rfl

theorem renderString_eq (content : Text) :
    renderString content = .char '"' :: (content.flatMap renderChar ++ [.char '"']) := rfl

theorem skipSpace_renderString (content rest : Text) :
    skipSpace (renderString content ++ rest) = renderString content ++ rest := by
  rw [renderString_eq, List.cons_append, skipSpace_cons (by decide)]

theorem readStringWithin_renderString (depth : Nat) (content rest : Text) :
    readStringWithin depth (renderString content ++ rest) = .ok (content, rest) := by
  rw [readStringWithin, readString_renderString]
  rfl

theorem readsBack_string (depth : Nat) (content : Text) : ReadsBack depth (.string content) := by
  constructor
  · intro level
    exact ⟨_, _, renderString_eq content, by decide, by decide, by decide⟩
  · intro level steps rest hSteps _
    obtain ⟨steps, rfl⟩ := Nat.exists_eq_succ_of_ne_zero (Nat.ne_zero_of_lt hSteps)
    have hString := readStringWithin_renderString depth content rest
    rw [renderAt]
    rw [renderString_eq, List.cons_append] at hString ⊢
    rw [readValue, hString]
    rfl

theorem ends_renderItems {level : Nat} {items : List Json} {rest : Text} (h : Ends rest) :
    Ends (renderItems level items ++ rest) := by
  cases items with
  | nil => exact h
  | cons item items =>
      intro c hMem
      rw [renderItems] at hMem
      cases hMem
      exact .inl rfl

theorem readItems_last {steps depth : Nat} {text after rest : Text} {item : Json}
    (hItem : readValue steps depth text = .ok (item, after))
    (hAfter : skipSpace after = .char ']' :: rest) :
    readItems (steps + 1) depth text = .ok ([item], rest) := by
  rw [readItems, hItem]
  simp only [bind, Except.bind, hAfter]
  rfl

theorem readItems_more {steps depth : Nat} {text after rest last : Text} {item : Json}
    {items : List Json} (hItem : readValue steps depth text = .ok (item, after))
    (hAfter : skipSpace after = .char ',' :: rest)
    (hItems : readItems steps depth (skipSpace rest) = .ok (items, last)) :
    readItems (steps + 1) depth text = .ok (item :: items, last) := by
  rw [readItems, hItem]
  simp only [bind, Except.bind, hAfter, hItems]
  rfl

/-- Written items are read back up to the closing bracket. The induction is on the items, each of
which takes one step beside those for its own text. -/
theorem readItems_renderItems {depth level outer : Nat} {item : Json} {items : List Json}
    {steps : Nat} {rest : Text} (hItems : ∀ other ∈ item :: items, ReadsBack depth other)
    (hSteps : (renderAt level item).length + (renderItems level items).length + 1 < steps) :
    readItems steps depth (renderAt level item ++ (renderItems level items ++
      (newline outer ++ .char ']' :: rest))) = .ok (item :: items, rest) := by
  induction items generalizing item steps with
  | nil =>
      obtain ⟨steps, rfl⟩ := Nat.exists_eq_succ_of_ne_zero (Nat.ne_zero_of_lt hSteps)
      have hItem := (hItems item List.mem_cons_self).reads level steps
        (renderItems level [] ++ (newline outer ++ .char ']' :: rest)) (by omega)
        (ends_renderItems (ends_newline outer _))
      refine readItems_last hItem ?_
      rw [renderItems, List.nil_append, skipSpace_newline, skipSpace_cons (by decide)]
  | cons next items ih =>
      obtain ⟨steps, rfl⟩ := Nat.exists_eq_succ_of_ne_zero (Nat.ne_zero_of_lt hSteps)
      have hItem := (hItems item List.mem_cons_self).reads level steps
        (renderItems level (next :: items) ++ (newline outer ++ .char ']' :: rest)) (by omega)
        (ends_renderItems (ends_newline outer _))
      have hOthers : ∀ other ∈ next :: items, ReadsBack depth other :=
        fun other hOther => hItems other (List.mem_cons_of_mem _ hOther)
      have hComma : renderItems level (next :: items) =
          .char ',' :: (newline level ++ (renderAt level next ++ renderItems level items)) := by
        rw [renderItems, List.append_assoc, List.append_assoc]
        rfl
      rw [hComma, List.length_cons, List.length_append, List.length_append] at hSteps
      have hAfter : skipSpace (renderItems level (next :: items) ++
            (newline outer ++ .char ']' :: rest)) =
          .char ',' :: (newline level ++ (renderAt level next ++ (renderItems level items ++
            (newline outer ++ .char ']' :: rest)))) := by
        rw [hComma, List.cons_append, skipSpace_cons (by decide), List.append_assoc,
          List.append_assoc]
      refine readItems_more hItem hAfter ?_
      rw [skipSpace_newline, (hOthers next List.mem_cons_self).skipSpace_eq]
      exact ih hOthers (by omega)

theorem readValue_array {steps depth : Nat} {text rest : Text} {items : List Json}
    (hText : ∀ after, skipSpace text ≠ .char ']' :: after)
    (hItems : readItems steps depth (skipSpace text) = .ok (items, rest)) :
    readValue (steps + 1) (depth + 1) (.char '[' :: text) = .ok (.array items, rest) := by
  rw [readValue]
  split
  · next after hEmpty => exact absurd hEmpty (hText after)
  · rw [hItems]
    rfl

/-- An array is read back one level further down than its items. -/
theorem readsBack_array {depth : Nat} {items : List Json}
    (hItems : ∀ item ∈ items, ReadsBack depth item) : ReadsBack (depth + 1) (.array items) := by
  cases items with
  | nil =>
      constructor
      · intro level
        exact ⟨.char '[', [.char ']'], rfl, by decide, by decide, by decide⟩
      · intro level steps rest hSteps _
        obtain ⟨steps, rfl⟩ := Nat.exists_eq_succ_of_ne_zero (Nat.ne_zero_of_lt hSteps)
        show readValue (steps + 1) (depth + 1) (.char '[' :: .char ']' :: rest) = _
        rw [readValue, skipSpace_cons (by decide)]
        rfl
  | cons item items =>
      have hText : ∀ level, renderAt level (.array (item :: items)) =
          .char '[' :: (newline (level + 1) ++ (renderAt (level + 1) item ++
            (renderItems (level + 1) items ++ (newline level ++ [.char ']'])))) := by
        intro level
        rw [renderAt]
        simp only [List.append_assoc]
        rfl
      constructor
      · intro level
        exact ⟨_, _, hText level, by decide, by decide, by decide⟩
      · intro level steps rest hSteps _
        obtain ⟨steps, rfl⟩ := Nat.exists_eq_succ_of_ne_zero (Nat.ne_zero_of_lt hSteps)
        have hItem := hItems item List.mem_cons_self
        rw [hText] at hSteps ⊢
        simp only [List.length_cons, List.length_append] at hSteps
        simp only [List.cons_append, List.append_assoc, List.nil_append]
        refine readValue_array ?_ ?_
        · intro after
          obtain ⟨c, more, hFirst, _, _, hBracket⟩ := hItem.starts (level + 1)
          rw [skipSpace_newline, hItem.skipSpace_eq, hFirst, List.cons_append]
          intro hEmpty
          exact hBracket (List.head_eq_of_cons_eq hEmpty)
        · rw [skipSpace_newline, hItem.skipSpace_eq]
          exact readItems_renderItems hItems (by omega)

theorem readFields_last {steps depth : Nat} {fields : Fields} {name text after rest : Text}
    {value : Json}
    (hValue : readValue steps depth (skipSpace text) = .ok (value, after))
    (hAfter : skipSpace after = .char '\x7d' :: rest) :
    readFields (steps + 1) depth fields (renderString name ++ .char ':' :: text) =
      .ok (fields.put name value, rest) := by
  have hName := readStringWithin_renderString depth name (.char ':' :: text)
  rw [renderString_eq, List.cons_append] at hName ⊢
  rw [readFields, hName]
  simp only [bind, Except.bind, skipSpace_cons (show isSpace ':' = false by decide), hValue, hAfter]
  rfl

theorem readFields_more {steps depth : Nat} {fields all : Fields} {name text after rest last : Text}
    {value : Json}
    (hValue : readValue steps depth (skipSpace text) = .ok (value, after))
    (hAfter : skipSpace after = .char ',' :: rest)
    (hFields : readFields steps depth (fields.put name value) (skipSpace rest) = .ok (all, last)) :
    readFields (steps + 1) depth fields (renderString name ++ .char ':' :: text) =
      .ok (all, last) := by
  have hName := readStringWithin_renderString depth name (.char ':' :: text)
  rw [renderString_eq, List.cons_append] at hName ⊢
  rw [readFields, hName]
  simp only [bind, Except.bind, skipSpace_cons (show isSpace ':' = false by decide), hValue, hAfter,
    hFields]

theorem put_of_not_mem {fields : Fields} {name : Text} (h : name ∉ fields.map Prod.fst) (value : Json) :
    fields.put name value = fields ++ [(name, value)] := by
  rw [Fields.put, if_neg]
  intro hAny
  obtain ⟨field, hMem, hName⟩ := List.any_eq_true.mp hAny
  exact h (List.mem_map.mpr ⟨field, hMem, by simpa using hName⟩)

theorem name_not_mem_of_nodup {done fields : Fields} {name : Text} {value : Json}
    (h : ((done ++ (name, value) :: fields).map Prod.fst).Nodup) : name ∉ done.map Prod.fst := by
  rw [List.map_append, List.nodup_append] at h
  intro hMem
  exact h.2.2 name hMem name List.mem_cons_self rfl

theorem ends_renderFields {level : Nat} {fields : Fields} {rest : Text} (h : Ends rest) :
    Ends (renderFields level fields ++ rest) := by
  cases fields with
  | nil => exact h
  | cons field fields =>
      intro c hMem
      rw [renderFields] at hMem
      cases hMem
      exact .inl rfl

/-- Written fields with distinct names are read back up to the closing brace, behind those that were
read before them. -/
theorem readFields_renderFields {depth level outer : Nat} {done : Fields} {name : Text} {value : Json}
    {fields : Fields} {steps : Nat} {rest : Text}
    (hNames : ((done ++ (name, value) :: fields).map Prod.fst).Nodup)
    (hValue : ReadsBack depth value) (hFields : ∀ field ∈ fields, ReadsBack depth field.2)
    (hSteps : (renderAt level value).length + (renderFields level fields).length + 1 < steps) :
    readFields steps depth done (renderString name ++ .char ':' :: .char ' ' ::
      (renderAt level value ++ (renderFields level fields ++
        (newline outer ++ .char '\x7d' :: rest)))) =
      .ok (done ++ (name, value) :: fields, rest) := by
  induction fields generalizing done name value steps with
  | nil =>
      obtain ⟨steps, rfl⟩ := Nat.exists_eq_succ_of_ne_zero (Nat.ne_zero_of_lt hSteps)
      have hRead := hValue.reads level steps
        (renderFields level [] ++ (newline outer ++ .char '\x7d' :: rest)) (by omega)
        (ends_renderFields (ends_newline outer _))
      rw [← hValue.skipSpace_eq level, ← skipSpace_space] at hRead
      rw [← put_of_not_mem (name_not_mem_of_nodup hNames)]
      refine readFields_last hRead ?_
      rw [renderFields, List.nil_append, skipSpace_newline, skipSpace_cons (by decide)]
  | cons field fields ih =>
      obtain ⟨other, content⟩ := field
      obtain ⟨steps, rfl⟩ := Nat.exists_eq_succ_of_ne_zero (Nat.ne_zero_of_lt hSteps)
      have hRead := hValue.reads level steps
        (renderFields level ((other, content) :: fields) ++ (newline outer ++ .char '\x7d' :: rest))
        (by omega) (ends_renderFields (ends_newline outer _))
      rw [← hValue.skipSpace_eq level, ← skipSpace_space] at hRead
      have hComma : renderFields level ((other, content) :: fields) =
          .char ',' :: (newline level ++ (renderString other ++ .char ':' :: .char ' ' ::
            (renderAt level content ++ renderFields level fields))) := by
        rw [renderFields]
        simp only [List.append_assoc]
        rfl
      rw [hComma] at hSteps
      simp only [List.length_append, List.length_cons] at hSteps
      have hAfter : skipSpace (renderFields level ((other, content) :: fields) ++
            (newline outer ++ .char '\x7d' :: rest)) =
          .char ',' :: (newline level ++ (renderString other ++ .char ':' :: .char ' ' ::
            (renderAt level content ++ (renderFields level fields ++
              (newline outer ++ .char '\x7d' :: rest))))) := by
        rw [hComma, List.cons_append, skipSpace_cons (by decide)]
        simp only [List.append_assoc, List.cons_append]
      refine readFields_more hRead hAfter ?_
      rw [skipSpace_newline, skipSpace_renderString,
        put_of_not_mem (name_not_mem_of_nodup hNames),
        List.append_cons done (name, value) ((other, content) :: fields)]
      have hContent : ReadsBack depth content := hFields (other, content) List.mem_cons_self
      refine ih ?_ hContent (fun field hMem => hFields field (List.mem_cons_of_mem _ hMem)) ?_
      · rw [← List.append_cons]
        exact hNames
      · omega

theorem readValue_object {steps depth : Nat} {text rest : Text} {fields : Fields}
    (hText : ∀ after, skipSpace text ≠ .char '\x7d' :: after)
    (hFields : readFields steps depth [] (skipSpace text) = .ok (fields, rest)) :
    readValue (steps + 1) (depth + 1) (.char '\x7b' :: text) = .ok (.object fields, rest) := by
  rw [readValue]
  split
  · next after hEmpty => exact absurd hEmpty (hText after)
  · rw [hFields]
    rfl

/-- An object with distinct field names is read back one level further down than its values. -/
theorem readsBack_object {depth : Nat} {fields : Fields} (hNames : (fields.map Prod.fst).Nodup)
    (hFields : ∀ field ∈ fields, ReadsBack depth field.2) :
    ReadsBack (depth + 1) (.object fields) := by
  cases fields with
  | nil =>
      constructor
      · intro level
        exact ⟨.char '\x7b', [.char '\x7d'], rfl, by decide, by decide, by decide⟩
      · intro level steps rest hSteps _
        obtain ⟨steps, rfl⟩ := Nat.exists_eq_succ_of_ne_zero (Nat.ne_zero_of_lt hSteps)
        show readValue (steps + 1) (depth + 1) (.char '\x7b' :: .char '\x7d' :: rest) = _
        rw [readValue, skipSpace_cons (by decide)]
        rfl
  | cons field fields =>
      obtain ⟨name, value⟩ := field
      have hText : ∀ level, renderAt level (.object ((name, value) :: fields)) =
          .char '\x7b' :: (newline (level + 1) ++ (renderString name ++ .char ':' :: .char ' ' ::
            (renderAt (level + 1) value ++ (renderFields (level + 1) fields ++
              (newline level ++ [.char '\x7d']))))) := by
        intro level
        rw [renderAt]
        simp only [List.append_assoc]
        rfl
      constructor
      · intro level
        exact ⟨_, _, hText level, by decide, by decide, by decide⟩
      · intro level steps rest hSteps _
        obtain ⟨steps, rfl⟩ := Nat.exists_eq_succ_of_ne_zero (Nat.ne_zero_of_lt hSteps)
        rw [hText] at hSteps ⊢
        simp only [List.length_cons, List.length_append] at hSteps
        simp only [List.cons_append, List.append_assoc, List.nil_append]
        refine readValue_object ?_ ?_
        · intro after
          rw [skipSpace_newline, skipSpace_renderString, renderString_eq, List.cons_append]
          intro hEmpty
          exact absurd (List.head_eq_of_cons_eq hEmpty) (by decide)
        · rw [skipSpace_newline, skipSpace_renderString]
          exact readFields_renderFields hNames (hFields (name, value) List.mem_cons_self)
            (fun field hMem => hFields field (List.mem_cons_of_mem _ hMem)) (by omega)

/-- A written value is read back as a whole text. -/
theorem readWithin_render {depth : Nat} {value : Json} (h : ReadsBack depth value) :
    readWithin depth value.render = .ok value := by
  obtain ⟨c, more, hText, hPlain, hSpace, _⟩ := h.starts 0
  have hMark : (render value).head? ≠ some (.char '\uFEFF') := by
    rw [render, hText, List.head?_cons]
    intro hFirst
    cases hFirst
    revert hPlain
    decide
  have hSkip : skipSpace (render value) = render value := by
    rw [render, hText, skipSpace_cons hSpace]
  have hRead : readValue (2 * (render value).length + 2) depth (render value) =
      .ok (value, []) := by
    have hSteps : (renderAt 0 value).length < 2 * (render value).length + 2 := by
      rw [render]
      omega
    have hAll := h.reads 0 _ [] hSteps (fun c hMem => by cases hMem)
    rw [List.append_nil] at hAll
    exact hAll
  rw [readWithin, readAll, if_neg hMark, hSkip, hRead]
  rfl

end ScenarioDesk.Json
