import ScenarioDesk.Proofs.Json.StringRoundTrip

/-! The code points that written values consist of: those of their strings from the space on, plain
characters, and line feeds. In particular no carriage return is ever written, and a half of a
surrogate pair wherever a string holds one and nowhere else. -/
namespace ScenarioDesk.Json

variable {allowed : CodePoint → Prop}

/-- Only code points of one kind are written for the value, at whatever level. -/
def WrittenWith (allowed : CodePoint → Prop) (value : Json) : Prop :=
  ∀ level, ∀ c ∈ renderAt level value, allowed c

/-- The code points between strings are of that kind. -/
def AllowsLayout (allowed : CodePoint → Prop) : Prop :=
  ∀ c : CodePoint, c = '\n' ∨ IsPlain c → allowed c

/-- The code points of a text that are written as themselves are of that kind. -/
def AllowsText (allowed : CodePoint → Prop) (text : Text) : Prop :=
  ∀ c ∈ text, 0x20 ≤ c.number → allowed c

/-- No carriage return stands between strings. -/
theorem allowsLayout_ne_return : AllowsLayout (· ≠ .char '\r') := by
  rintro c (rfl | hPlain)
  · decide
  · rintro rfl
    revert hPlain
    decide

/-- A carriage return in a string is written as an escape. -/
theorem allowsText_ne_return (text : Text) : AllowsText (· ≠ .char '\r') text := by
  rintro c _ hNumber rfl
  revert hNumber
  decide

theorem allowed_of_mem_plain (hLayout : AllowsLayout allowed) {text : Text}
    (hText : ∀ c ∈ text, IsPlain c) {c : CodePoint} (h : c ∈ text) : allowed c :=
  hLayout c (.inr (hText c h))

theorem allowed_of_mem_newline (hLayout : AllowsLayout allowed) {level : Nat} {c : CodePoint}
    (h : c ∈ newline level) : allowed c := by
  rcases List.mem_cons.mp h with rfl | hBlank
  · exact hLayout _ (.inl rfl)
  · rw [List.eq_of_mem_replicate hBlank]
    exact hLayout _ (.inr (by decide))

theorem allowed_of_mem_renderString (hLayout : AllowsLayout allowed) {content : Text}
    (hText : AllowsText allowed content) {c : CodePoint} (h : c ∈ renderString content) :
    allowed c := by
  rw [renderString, List.mem_append, List.mem_append, List.mem_flatMap] at h
  rcases h with (hQuote | ⟨original, hMem, hWritten⟩) | hQuote
  · exact allowed_of_mem_plain hLayout (by decide) hQuote
  · rcases mem_renderChar hWritten with hPlain | ⟨rfl, hSpace⟩
    · exact hLayout c (.inr hPlain)
    · exact hText c hMem hSpace
  · exact allowed_of_mem_plain hLayout (by decide) hQuote

theorem writtenWith_string (hLayout : AllowsLayout allowed) {content : Text}
    (hText : AllowsText allowed content) : WrittenWith allowed (.string content) := by
  intro level c hMem
  rw [renderAt] at hMem
  exact allowed_of_mem_renderString hLayout hText hMem

theorem allowed_of_mem_renderItems (hLayout : AllowsLayout allowed) {level : Nat} {items : List Json}
    (hItems : ∀ item ∈ items, WrittenWith allowed item) {c : CodePoint}
    (h : c ∈ renderItems level items) : allowed c := by
  induction items with
  | nil => cases h
  | cons item items ih =>
      rw [renderItems, List.mem_append, List.mem_append, List.mem_append] at h
      rcases h with ((hComma | hNewline) | hItem) | hRest
      · exact allowed_of_mem_plain hLayout (by decide) hComma
      · exact allowed_of_mem_newline hLayout hNewline
      · exact hItems item List.mem_cons_self level c hItem
      · exact ih (fun other hOther => hItems other (List.mem_cons_of_mem _ hOther)) hRest

theorem writtenWith_array (hLayout : AllowsLayout allowed) {items : List Json}
    (hItems : ∀ item ∈ items, WrittenWith allowed item) : WrittenWith allowed (.array items) := by
  intro level c hMem
  cases items with
  | nil =>
      rw [renderAt] at hMem
      exact allowed_of_mem_plain hLayout (by decide) hMem
  | cons item items =>
      rw [renderAt, List.mem_append, List.mem_append, List.mem_append, List.mem_append,
        List.mem_append] at hMem
      rcases hMem with ((((hOpen | hNewline) | hItem) | hRest) | hNewline) | hClose
      · exact allowed_of_mem_plain hLayout (by decide) hOpen
      · exact allowed_of_mem_newline hLayout hNewline
      · exact hItems item List.mem_cons_self (level + 1) c hItem
      · exact allowed_of_mem_renderItems hLayout
          (fun other hOther => hItems other (List.mem_cons_of_mem _ hOther)) hRest
      · exact allowed_of_mem_newline hLayout hNewline
      · exact allowed_of_mem_plain hLayout (by decide) hClose

/-- The name and the value of a field are written with code points of one kind only. -/
def FieldWrittenWith (allowed : CodePoint → Prop) (field : Text × Json) : Prop :=
  AllowsText allowed field.1 ∧ WrittenWith allowed field.2

theorem allowed_of_mem_renderFields (hLayout : AllowsLayout allowed) {level : Nat} {fields : Fields}
    (hFields : ∀ field ∈ fields, FieldWrittenWith allowed field) {c : CodePoint}
    (h : c ∈ renderFields level fields) : allowed c := by
  induction fields with
  | nil => cases h
  | cons field fields ih =>
      obtain ⟨name, value⟩ := field
      obtain ⟨hName, hValue⟩ := hFields (name, value) List.mem_cons_self
      rw [renderFields, List.mem_append, List.mem_append, List.mem_append, List.mem_append,
        List.mem_append] at h
      rcases h with ((((hComma | hNewline) | hString) | hColon) | hWritten) | hRest
      · exact allowed_of_mem_plain hLayout (by decide) hComma
      · exact allowed_of_mem_newline hLayout hNewline
      · exact allowed_of_mem_renderString hLayout hName hString
      · exact allowed_of_mem_plain hLayout (by decide) hColon
      · exact hValue level c hWritten
      · exact ih (fun other hOther => hFields other (List.mem_cons_of_mem _ hOther)) hRest

theorem writtenWith_object (hLayout : AllowsLayout allowed) {fields : Fields}
    (hFields : ∀ field ∈ fields, FieldWrittenWith allowed field) :
    WrittenWith allowed (.object fields) := by
  intro level c hMem
  cases fields with
  | nil =>
      rw [renderAt] at hMem
      exact allowed_of_mem_plain hLayout (by decide) hMem
  | cons field fields =>
      obtain ⟨name, value⟩ := field
      obtain ⟨hName, hValue⟩ := hFields (name, value) List.mem_cons_self
      rw [renderAt, List.mem_append, List.mem_append, List.mem_append, List.mem_append,
        List.mem_append, List.mem_append, List.mem_append] at hMem
      rcases hMem with ((((((hOpen | hNewline) | hString) | hColon) | hWritten) | hRest) |
        hNewline) | hClose
      · exact allowed_of_mem_plain hLayout (by decide) hOpen
      · exact allowed_of_mem_newline hLayout hNewline
      · exact allowed_of_mem_renderString hLayout hName hString
      · exact allowed_of_mem_plain hLayout (by decide) hColon
      · exact hValue (level + 1) c hWritten
      · exact allowed_of_mem_renderFields hLayout
          (fun other hOther => hFields other (List.mem_cons_of_mem _ hOther)) hRest
      · exact allowed_of_mem_newline hLayout hNewline
      · exact allowed_of_mem_plain hLayout (by decide) hClose

section Halves

variable {c : CodePoint}

/-- The code point is written for the value, at whatever level. -/
def Shows (c : CodePoint) (value : Json) : Prop := ∀ level, c ∈ renderAt level value

/-- A half of a surrogate pair is not escaped. -/
theorem shows_string (hHalf : c.isHalf = true) {content : Text} (h : c ∈ content) :
    Shows c (.string content) := by
  intro level
  have hWritten : c ∈ renderChar c := by
    cases c with
    | char char => cases hHalf
    | half index =>
        have hNumber : ¬ (CodePoint.half index).number < 0x20 := by
          rw [CodePoint.number, CodePoint.firstHalf]
          omega
        have hSelf : renderChar (.half index) = [.half index] := if_neg hNumber
        rw [hSelf]
        exact List.mem_singleton_self _
  rw [renderAt, renderString, List.mem_append, List.mem_append, List.mem_flatMap]
  exact .inl (.inr ⟨c, h, hWritten⟩)

theorem shows_array {items : List Json} {item : Json} (hItem : item ∈ items) (h : Shows c item) :
    Shows c (.array items) := by
  have hLater : ∀ {level : Nat} {others : List Json}, item ∈ others → c ∈ renderItems level others := by
    intro level others hMem
    induction others with
    | nil => cases hMem
    | cons other others ih =>
        rw [renderItems, List.mem_append, List.mem_append]
        rcases List.mem_cons.mp hMem with rfl | hRest
        · exact .inl (.inr (h level))
        · exact .inr (ih hRest)
  intro level
  cases items with
  | nil => cases hItem
  | cons first others =>
      rw [renderAt, List.mem_append, List.mem_append, List.mem_append, List.mem_append]
      rcases List.mem_cons.mp hItem with rfl | hRest
      · exact .inl (.inl (.inl (.inr (h (level + 1)))))
      · exact .inl (.inl (.inr (hLater hRest)))

theorem shows_object {fields : Fields} {name : Text} {value : Json} (hField : (name, value) ∈ fields)
    (h : Shows c value) : Shows c (.object fields) := by
  have hLater : ∀ {level : Nat} {others : Fields}, (name, value) ∈ others →
      c ∈ renderFields level others := by
    intro level others hMem
    induction others with
    | nil => cases hMem
    | cons other others ih =>
        obtain ⟨_, _⟩ := other
        rw [renderFields, List.mem_append, List.mem_append]
        rcases List.mem_cons.mp hMem with hFirst | hRest
        · cases hFirst
          exact .inl (.inr (h level))
        · exact .inr (ih hRest)
  intro level
  cases fields with
  | nil => cases hField
  | cons first others =>
      obtain ⟨_, _⟩ := first
      rw [renderAt, List.mem_append, List.mem_append, List.mem_append, List.mem_append]
      rcases List.mem_cons.mp hField with hFirst | hRest
      · cases hFirst
        exact .inl (.inl (.inl (.inr (h (level + 1)))))
      · exact .inl (.inl (.inr (hLater hRest)))

end Halves

end ScenarioDesk.Json
