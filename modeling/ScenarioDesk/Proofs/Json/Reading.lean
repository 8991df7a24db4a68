import ScenarioDesk.Proofs.Json.Integers

/-! What kinds of values the reader gives. In particular, since it refuses integers that are not short,
those of what it has read can be written and read again. -/
namespace ScenarioDesk.Json

theorem isDigit_of_readWhole {text whole after : Text} (h : readWhole text = some (whole, after)) :
    ∀ c ∈ whole, c.isDigit = true := by
  unfold readWhole at h
  split at h
  · cases h
    decide
  · split at h
    · cases h
      exact List.all_eq_true.mp List.all_takeWhile
    · cases h
  · cases h

/-- A number that is read is a floating-point number, or an integer with digits up to the limit. -/
theorem readNumber_cases {text after : Text} {value : Json} (h : readNumber text = .ok (value, after)) :
    (∃ number, value = .float number) ∨ ∃ (negative : Bool) (whole : Text),
      (∀ c ∈ whole, c.isDigit = true) ∧ whole.length ≤ digitLimit ∧
        value = .int (if negative then -(Text.toNat whole : Int) else Text.toNat whole) := by
  unfold readNumber at h
  split at h
  next negative unsigned _ =>
  cases hWhole : readWhole unsigned with
  | none =>
      rw [hWhole] at h
      cases h
  | some found =>
      rw [hWhole] at h
      dsimp only at h
      split at h
      · split at h
        · next hNone => cases hNone.2
        · cases h
          exact .inl ⟨_, rfl⟩
      · split at h
        · split at h
          · cases h
          · next hLength =>
              cases h
              exact .inr ⟨negative, found.1, isDigit_of_readWhole hWhole, Nat.not_lt.mp hLength, rfl⟩
        · cases h
          exact .inl ⟨_, rfl⟩

/-- An integer that is read is short. -/
theorem isShort_of_readNumber {text after : Text} {value : Int}
    (h : readNumber text = .ok (.int value, after)) : IsShort value := by
  rcases readNumber_cases h with ⟨_, hFloat⟩ | ⟨negative, whole, hDigits, hLength, hInt⟩
  · cases hFloat
  · have hAbs : value.natAbs = Text.toNat whole := by
      cases negative with
      | true =>
          cases hInt
          exact Int.natAbs_neg _
      | false =>
          cases hInt
          rfl
    rw [IsShort, hAbs]
    exact Nat.lt_of_lt_of_le (Text.toNat_lt_pow hDigits) (Nat.pow_le_pow_right (by decide) hLength)

theorem kind_of_readConstant? {text after : Text} {value : Json}
    (h : readConstant? text = some (value, after)) :
    (∀ number, value ≠ .int number) ∧ ∀ fields, value ≠ .object fields := by
  obtain ⟨entry, hEntry, hFound⟩ := List.exists_of_findSome?_eq_some h
  obtain ⟨rest, _, hPair⟩ := Option.map_eq_some_iff.mp hFound
  obtain ⟨rfl, _⟩ := Prod.mk.inj hPair
  have hValues : ∀ entry ∈ constants, (match entry.2 with
      | .int _ | .object _ => false
      | _ => true) = true := by decide
  have hKind := hValues entry hEntry
  constructor
  · intro number hNumber
    rw [hNumber] at hKind
    cases hKind
  · intro fields hFields
    rw [hFields] at hKind
    cases hKind

theorem exists_of_bind_eq_ok {α : Type} {read : Except Refusal (α × Text)} {wrap : α → Json}
    {value : Json} {after : Text}
    (h : (read >>= fun found => pure (wrap found.1, found.2)) = .ok (value, after)) :
    ∃ part, read = .ok (part, after) ∧ value = wrap part := by
  cases read with
  | error refusal => cases h
  | ok found =>
      cases h
      exact ⟨found.1, rfl, rfl⟩

/-- Where a value that is read comes from. -/
theorem readValue_cases {steps depth : Nat} {text after : Text} {value : Json}
    (h : readValue steps depth text = .ok (value, after)) :
    (∃ content, value = .string content) ∨ (∃ items, value = .array items) ∨
      (∃ fields, value = .object fields ∧
        (fields = [] ∨ ∃ left below inside, readFields left below [] inside = .ok (fields, after))) ∨
      readConstant? text = some (value, after) ∨ readNumber text = .ok (value, after) := by
  cases steps with
  | zero =>
      rw [readValue] at h
      cases h
  | succ steps =>
      unfold readValue at h
      split at h
      · obtain ⟨content, _, hValue⟩ := exists_of_bind_eq_ok h
        exact .inl ⟨content, hValue⟩
      · split at h
        · cases h
        · split at h
          · cases h
            exact .inr (.inl ⟨[], rfl⟩)
          · obtain ⟨items, _, hValue⟩ := exists_of_bind_eq_ok h
            exact .inr (.inl ⟨items, hValue⟩)
      · split at h
        · cases h
        · split at h
          · cases h
            exact .inr (.inr (.inl ⟨[], rfl, .inl rfl⟩))
          · obtain ⟨fields, hFields, hValue⟩ := exists_of_bind_eq_ok h
            exact .inr (.inr (.inl ⟨fields, hValue, .inr ⟨_, _, _, hFields⟩⟩))
      · split at h
        · next found hFound =>
            split at h
            · cases h
            · cases h
              exact .inr (.inr (.inr (.inl hFound)))
        · exact .inr (.inr (.inr (.inr h)))

theorem isShort_of_readValue {steps depth : Nat} {text after : Text} {value : Int}
    (h : readValue steps depth text = .ok (.int value, after)) : IsShort value := by
  rcases readValue_cases h with ⟨_, hValue⟩ | ⟨_, hValue⟩ | ⟨_, hValue, _⟩ | hConstant | hNumber
  · cases hValue
  · cases hValue
  · cases hValue
  · exact absurd rfl ((kind_of_readConstant? hConstant).1 value)
  · exact isShort_of_readNumber hNumber

/-- The integers among the values of the fields are short. -/
def ShortFields (fields : Fields) : Prop :=
  ∀ field ∈ fields, ∀ value, field.2 = .int value → IsShort value

theorem ShortFields.put {fields : Fields} (h : ShortFields fields) (name : Text) {value : Json}
    (hValue : ∀ number, value = .int number → IsShort number) : ShortFields (fields.put name value) := by
  unfold Fields.put
  split
  · intro field hMem
    obtain ⟨older, hOlder, rfl⟩ := List.mem_map.mp hMem
    split
    · exact hValue
    · exact h older hOlder
  · intro field hMem
    rcases List.mem_append.mp hMem with hOlder | hNew
    · exact h field hOlder
    · rw [List.mem_singleton.mp hNew]
      exact hValue

/-- Reading fields adds short integers only. -/
theorem shortFields_of_readFields {steps depth : Nat} {fields all : Fields} {text after : Text}
    (hFields : ShortFields fields) (h : readFields steps depth fields text = .ok (all, after)) :
    ShortFields all := by
  induction steps generalizing fields text with
  | zero =>
      rw [readFields] at h
      cases h
  | succ steps ih =>
      unfold readFields at h
      split at h
      · next rest =>
          cases hName : readStringWithin depth (.char '"' :: rest) with
          | error refusal =>
              rw [hName] at h
              cases h
          | ok found =>
              rw [hName] at h
              simp only [bind, Except.bind] at h
              split at h
              · next inside _ =>
                  cases hValue : readValue steps depth (skipSpace inside) with
                  | error refusal =>
                      rw [hValue] at h
                      cases h
                  | ok read =>
                      obtain ⟨value, afterValue⟩ := read
                      rw [hValue] at h
                      dsimp only at h
                      have hNumber : ∀ number, value = .int number → IsShort number := by
                        rintro number rfl
                        exact isShort_of_readValue hValue
                      have hPut := hFields.put found.1 hNumber
                      split at h
                      · cases h
                        exact hPut
                      · exact ih hPut h
                      · cases h
              · cases h
      · cases h

theorem shortFields_of_readValue {steps depth : Nat} {text after : Text} {fields : Fields}
    (h : readValue steps depth text = .ok (.object fields, after)) : ShortFields fields := by
  rcases readValue_cases h with ⟨_, hValue⟩ | ⟨_, hValue⟩ | ⟨others, hValue, hRead⟩ | hConstant | hNumber
  · cases hValue
  · cases hValue
  · have hNone : ShortFields [] := fun field hMem => absurd hMem List.not_mem_nil
    cases hValue
    rcases hRead with rfl | ⟨_, _, _, hFields⟩
    · exact hNone
    · exact shortFields_of_readFields hNone hFields
  · exact absurd rfl ((kind_of_readConstant? hConstant).2 fields)
  · rcases readNumber_cases hNumber with ⟨_, hFloat⟩ | ⟨_, _, _, _, hInt⟩
    · cases hFloat
    · cases hInt

/-- Every integer among the fields of an object that is read is short. -/
theorem shortFields_of_readWithin {depth : Nat} {text : Text} {fields : Fields}
    (h : readWithin depth text = .ok (.object fields)) :
    ShortFields fields := by
  rw [readWithin, readAll] at h
  split at h
  · cases h
  · cases hValue : readValue (2 * text.length + 2) depth (skipSpace text) with
    | error refusal =>
        rw [hValue] at h
        cases h
    | ok found =>
        obtain ⟨value, after⟩ := found
        rw [hValue] at h
        simp only [bind, Except.bind] at h
        split at h
        · cases h
          exact shortFields_of_readValue hValue
        · cases h

end ScenarioDesk.Json
