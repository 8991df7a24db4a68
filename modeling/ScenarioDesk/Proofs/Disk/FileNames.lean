import Mathlib.Data.List.TakeWhile
import ScenarioDesk.Disk.FileKind
import ScenarioDesk.Proofs.Text.Numerals

/-! Which names are taken for those of text files. A name is judged by its suffix, with three exceptions: what
is compressed is judged by the extension in front of that of the compression, an extension counts for nothing
if only dots stand in front of it, and a name that looks like an address is judged by the path of that address,
or by the type it declares if it looks like inline data. Which names look like one depends on the rule by which
a scheme is cut off. -/
namespace ScenarioDesk

namespace Text

/-- What occurs in a text occurs in it for the last time. -/
theorem exists_eq_append_last {c : CodePoint} {text : Text} (h : c ∈ text) :
    ∃ front back, text = front ++ c :: back ∧ c ∉ back := by
  obtain ⟨back, front, hText, hBack⟩ := List.eq_append_cons_of_mem (List.mem_reverse.mpr h)
  refine ⟨front.reverse, back.reverse, ?_, fun hMem => hBack (List.mem_reverse.mp hMem)⟩
  rw [← List.reverse_reverse text, hText]
  simp

theorem afterLast_of_not_mem {c : CodePoint} {text : Text} (h : c ∉ text) : afterLast c text = text := by
  have hAll : ∀ d ∈ text.reverse, (d != c) = true := by
    intro d hMem
    refine bne_iff_ne.mpr ?_
    rintro rfl
    exact h (List.mem_reverse.mp hMem)
  rw [afterLast, List.takeWhile_eq_self_iff.mpr hAll, List.reverse_reverse]

section Until

variable {c : CodePoint} {front : Text} (h : c ∉ front)
include h

theorem all_ne_of_not_mem : ∀ d ∈ front, decide (d ≠ c) = true := by
  intro d hMem
  rw [decide_eq_true_iff]
  rintro rfl
  exact h hMem

theorem takeWhile_ne_append (rest : Text) : (front ++ c :: rest).takeWhile (· ≠ c) = front := by
  rw [List.takeWhile_append_of_pos (all_ne_of_not_mem h), List.takeWhile_cons_of_neg (by simp), List.append_nil]

theorem dropWhile_ne_append (rest : Text) : (front ++ c :: rest).dropWhile (· ≠ c) = c :: rest := by
  have hTake := List.takeWhile_append_dropWhile (p := (· ≠ c)) (l := front ++ c :: rest)
  rw [takeWhile_ne_append h] at hTake
  exact List.append_cancel_left hTake

end Until

/-- The part of a text in front of the first character that it ends at, or all of it if there is none. -/
structure IsUpTo (ends : CodePoint → Prop) (text part : Text) : Prop where
  clear : ∀ c ∈ part, ¬ ends c
  rest : text = part ∨ ∃ c behind, ends c ∧ text = part ++ c :: behind

theorem isUpTo_iff {ends : CodePoint → Prop} {goesOn : CodePoint → Bool}
    (hEnds : ∀ c, goesOn c = true ↔ ¬ ends c) {text part : Text} :
    IsUpTo ends text part ↔ text.takeWhile goesOn = part := by
  constructor
  · rintro ⟨hClear, hRest⟩
    have hPart : ∀ c ∈ part, goesOn c = true := fun c hMem => (hEnds c).mpr (hClear c hMem)
    rcases hRest with rfl | ⟨c, behind, hEnd, rfl⟩
    · exact List.takeWhile_eq_self_iff.mpr hPart
    · have hStop : ¬ goesOn c = true := fun hGoesOn => (hEnds c).mp hGoesOn hEnd
      rw [List.takeWhile_append_of_pos hPart, List.takeWhile_cons_of_neg hStop, List.append_nil]
  · rintro rfl
    refine ⟨fun c hMem => (hEnds c).mp (List.mem_takeWhile_imp hMem), ?_⟩
    have hSplit := List.takeWhile_append_dropWhile (p := goesOn) (l := text)
    have hHead := List.head?_dropWhile_not goesOn text
    cases hDrop : text.dropWhile goesOn with
    | nil =>
        rw [hDrop, List.append_nil] at hSplit
        exact .inl hSplit.symm
    | cons c behind =>
        rw [hDrop] at hSplit hHead
        have hStop : goesOn c = false := hHead
        refine .inr ⟨c, behind, by_contra fun hGoesOn => ?_, hSplit.symm⟩
        rw [(hEnds c).mpr hGoesOn] at hStop
        cases hStop

end Text

namespace Path

/-- A suffix reaches from the last dot to the end, and something stands in front of it. -/
theorem suffixOf_append {stem ending : Text} (hDot : .char '.' ∉ ending) (hStem : stem ≠ [])
    (hEnding : ending ≠ []) : suffixOf (stem ++ .char '.' :: ending) = .char '.' :: ending := by
  have hLength := List.length_pos_iff.mpr hStem
  rw [suffixOf, Text.afterLast_append_cons hDot, if_pos]
  rw [List.length_append, List.length_cons]
  exact ⟨by omega, hEnding, by omega⟩

theorem suffixOf_cases (name : Text) : suffixOf name = [] ∨ ∃ stem ending, name = stem ++ .char '.' :: ending ∧
    .char '.' ∉ ending ∧ suffixOf name = .char '.' :: ending := by
  by_cases hDot : .char '.' ∈ name
  · obtain ⟨stem, ending, rfl, hLast⟩ := Text.exists_eq_append_last hDot
    rw [suffixOf, Text.afterLast_append_cons hLast]
    split
    · exact .inr ⟨stem, ending, rfl, hLast, rfl⟩
    · exact .inl rfl
  · refine .inl ?_
    rw [suffixOf, Text.afterLast_of_not_mem hDot, if_neg (by omega)]

end Path

namespace FileKind

/-- A name begins with a scheme and a colon, and what is read behind them is the path. By the strict rule the
name is read like an address: blanks and controls are passed over, and the path ends where a query, a fragment
or, behind some schemes, parameters begin. -/
inductive HasScheme : SchemeRule → Text → Text → Text → Prop
  | lenient {scheme path : Text} (hScheme : scheme ≠ []) (hColon : .char ':' ∉ scheme) :
      HasScheme .lenient (scheme ++ .char ':' :: path) scheme path
  | strict {name scheme behind path : Text} (hName : cleaned name = scheme ++ .char ':' :: behind)
      (hScheme : isScheme scheme = true)
      (hPath : Text.IsUpTo (· ∈ pathEnds (Text.lower scheme)) behind path) : HasScheme .strict name scheme path

/-- The name looks like inline data: the scheme `data`, whatever its case, stands in front of them. -/
def IsInline (rule : SchemeRule) (name data : Text) : Prop :=
  ∃ scheme, HasScheme rule name scheme data ∧ Text.lower scheme = ("data" : Text)

/-- What a name is judged by that is no inline data: the path behind the scheme, or the whole name. -/
inductive IsJudgedBy (rule : SchemeRule) (name : Text) : Text → Prop
  | whole (hNone : ∀ scheme path, ¬ HasScheme rule name scheme path) : IsJudgedBy rule name name
  | behind {scheme path : Text} (hScheme : HasScheme rule name scheme path)
      (hData : Text.lower scheme ≠ ("data" : Text)) : IsJudgedBy rule name path

/-- The name ends with an extension of the table, whatever its case, and something other than dots stands in
front of that. -/
structure EndsIn (table : List Text) (name : Text) : Prop where
  extension : Text.lower (Path.suffixOf name) ∈ table
  named : ∀ front, name = front ++ Path.suffixOf name → ∃ c ∈ front, c ≠ .char '.'

/-- The extension of a compression has been put behind a name that ends with one of the table. -/
def IsPacked (table : List Text) (name : Text) : Prop :=
  ∃ packed, ∃ packing ∈ compressionExtensions, name = packed ++ packing ∧ EndsIn table packed

/-- The name of a text, or of a compressed one. -/
def NamesText (name : Text) : Prop := EndsIn plainExtensions name ∨ IsPacked plainExtensions name

/-- The name of something else that is known. -/
def NamesOther (name : Text) : Prop :=
  EndsIn otherExtensions name ∨ IsPacked otherExtensions name ∨ EndsIn (combinedExtensions.map Prod.fst) name

/-- The data have a comma, and the type that is declared in front of the first one, up to the parameters, is that
of plain text or is no type at all. -/
def DeclaresText (data : Text) : Prop :=
  ∃ header rest type, data = header ++ .char ',' :: rest ∧ .char ',' ∉ header ∧
    Text.IsUpTo (· = .char ';') header type ∧
    (.char '=' ∈ type ∨ .char '/' ∉ type ∨ type = ("text/plain" : Text))

section Extension

variable {stem ending : Text} (hDot : .char '.' ∉ ending)
include hDot

/-- A cut before the last dot. -/
theorem splitExtension_last : splitExtension (stem ++ .char '.' :: ending) =
    if stem.any (· ≠ .char '.') then (stem, .char '.' :: ending)
    else (stem ++ .char '.' :: ending, []) := by
  have hShorter : ending.length < (stem ++ CodePoint.char '.' :: ending).length := by
    rw [List.length_append, List.length_cons]
    omega
  have hStem : (stem ++ CodePoint.char '.' :: ending).length - ending.length - 1 = stem.length := by
    rw [List.length_append, List.length_cons]
    omega
  rw [splitExtension, Text.afterLast_append_cons hDot, hStem, List.take_left]
  simp only [hShorter, true_and]

theorem splitExtension_append (hStem : ∃ c ∈ stem, c ≠ .char '.') :
    splitExtension (stem ++ .char '.' :: ending) = (stem, .char '.' :: ending) := by
  rw [splitExtension_last hDot, if_pos (by simpa using hStem)]

end Extension

theorem splitExtension_extension {stem extension : Text} (hHead : extension.head? = some (.char '.'))
    (hTail : .char '.' ∉ extension.tail) (hStem : ∃ c ∈ stem, c ≠ .char '.') :
    splitExtension (stem ++ extension) = (stem, extension) := by
  cases extension with
  | nil => cases hHead
  | cons c ending =>
      cases hHead
      exact splitExtension_append hTail hStem

/-- A name has no extension, or one that reaches from its last dot to the end, behind more than dots. -/
theorem of_splitExtension_eq {name stem extension : Text} (h : splitExtension name = (stem, extension)) :
    name = stem ++ extension ∧ (extension = [] ∨
      ∃ ending, extension = .char '.' :: ending ∧ .char '.' ∉ ending ∧ ∃ c ∈ stem, c ≠ .char '.') := by
  by_cases hDot : .char '.' ∈ name
  · obtain ⟨front, ending, rfl, hLast⟩ := Text.exists_eq_append_last hDot
    rw [splitExtension_last hLast] at h
    split at h
    · next hFront =>
        obtain ⟨rfl, rfl⟩ := Prod.mk.inj h
        exact ⟨rfl, .inr ⟨ending, rfl, hLast, by simpa using hFront⟩⟩
    · obtain ⟨rfl, rfl⟩ := Prod.mk.inj h
      exact ⟨(List.append_nil _).symm, .inl rfl⟩
  · rw [splitExtension, Text.afterLast_of_not_mem hDot, if_neg (fun hBoth => Nat.lt_irrefl _ hBoth.1)] at h
    obtain ⟨rfl, rfl⟩ := Prod.mk.inj h
    exact ⟨(List.append_nil _).symm, .inl rfl⟩

section Tables

/-- The archives and drawings that have extensions of their own for their compressed form. -/
def packable : List Text := [".svg", ".tar"]

theorem other_of_mem_packable : ∀ archive ∈ packable,
    archive.head? = some (.char '.') ∧ .char '.' ∉ archive.tail ∧ ofExtension archive = .other := by
  decide +kernel

/-- An extension that stands for two stands for one of these and that of its compression. -/
theorem packed_of_mem_combinedExtensions : ∀ pair ∈ combinedExtensions,
    ∃ archive ∈ packable, ∃ packing ∈ compressionExtensions, pair.2 = archive ++ packing := by
  decide +kernel

theorem extension_of_mem_compressionExtensions : ∀ packing ∈ compressionExtensions,
    packing.head? = some (.char '.') ∧ .char '.' ∉ packing.tail ∧ packing.tail ≠ [] ∧
      combinedExtensions.lookup (Text.lower packing) = none := by
  decide +kernel

/-- Texts as numbers, by which long tables are compared. -/
def code (text : Text) : Nat := text.foldl (fun number c => number * 0x110000 + c.number) 0

theorem not_mem_of_code {text : Text} {table : List Text} (h : code text ∉ table.map code) : text ∉ table :=
  fun hMem => h (List.mem_map_of_mem hMem)

theorem lookup_combinedExtensions_eq_none_iff {extension : Text} :
    combinedExtensions.lookup extension = none ↔ extension ∉ combinedExtensions.map Prod.fst := by
  simp [List.lookup_eq_none_iff, combinedExtensions]

/-- No extension of the table is empty or a dot alone. -/
def IsProper (table : List Text) : Prop := ∀ extension ∈ table, extension ≠ [] ∧ extension ≠ ("." : Text)

instance (table : List Text) : Decidable (IsProper table) :=
  inferInstanceAs (Decidable (∀ extension ∈ table, extension ≠ [] ∧ extension ≠ ("." : Text)))

/-- What has to be known of a table of extensions: they are proper ones, and stand neither for a compression nor
for two extensions. -/
structure IsSound (table : List Text) : Prop where
  proper : IsProper table
  single : ∀ extension ∈ table, code extension ∉ (combinedExtensions.map Prod.fst).map code
  unpacked : ∀ packing ∈ compressionExtensions, code (Text.lower packing) ∉ table.map code

theorem isSound_plainExtensions : IsSound plainExtensions where
  proper := by decide +kernel
  single := by decide +kernel
  unpacked := by decide +kernel

theorem isSound_otherExtensions : IsSound otherExtensions where
  proper := by decide +kernel
  single := by decide +kernel
  unpacked := by decide +kernel

theorem isProper_combinedExtensions : IsProper (combinedExtensions.map Prod.fst) := by decide +kernel

theorem code_not_mem_otherExtensions : ∀ extension ∈ plainExtensions,
    code extension ∉ otherExtensions.map code := by
  decide +kernel

end Tables

section Kinds

variable {extension : Text}

theorem ofExtension_eq_plainText_iff :
    ofExtension extension = .plainText ↔ Text.lower extension ∈ plainExtensions := by
  rw [ofExtension]
  split
  · next h => simpa using h
  · next h =>
      have hNot : Text.lower extension ∉ plainExtensions := by simpa using h
      split <;> simpa using hNot

theorem ofExtension_eq_other_iff : ofExtension extension = .other ↔ Text.lower extension ∈ otherExtensions := by
  rw [ofExtension]
  split
  · next h =>
      have hCode := code_not_mem_otherExtensions _ (List.contains_iff_mem.mp h)
      simpa using not_mem_of_code hCode
  · split
    · next h => simpa using h
    · next h => simpa using h

end Kinds

section Endings

variable {table : List Text} {name : Text}

theorem EndsIn.exists_ne_dot (h : EndsIn table name) : ∃ c ∈ name, c ≠ .char '.' := by
  obtain ⟨front, hName⟩ : ∃ front, name = front ++ Path.suffixOf name := by
    rcases Path.suffixOf_cases name with hNone | ⟨stem, ending, hName, _, hSome⟩
    · exact ⟨name, by rw [hNone, List.append_nil]⟩
    · exact ⟨stem, by rw [hSome, ← hName]⟩
  obtain ⟨c, hMem, hDot⟩ := h.named front hName
  exact ⟨c, by rw [hName]; exact List.mem_append_left _ hMem, hDot⟩

theorem EndsIn.suffixOf_ne_nil (h : EndsIn table name) (hProper : IsProper table) :
    Path.suffixOf name ≠ [] := by
  intro hNone
  have hMem := h.extension
  rw [hNone] at hMem
  exact (hProper _ hMem).1 rfl

theorem IsPacked.suffixOf_ne_nil (h : IsPacked table name) : Path.suffixOf name ≠ [] := by
  obtain ⟨packed, packing, hPacking, rfl, hPacked⟩ := h
  obtain ⟨hHead, hTail, hNamed, _⟩ := extension_of_mem_compressionExtensions packing hPacking
  obtain ⟨_, hMem, _⟩ := hPacked.exists_ne_dot
  cases packing with
  | nil => cases hHead
  | cons c ending =>
      cases hHead
      have hDot : .char '.' ∉ ending := hTail
      rw [Path.suffixOf_append hDot (List.ne_nil_of_mem hMem) hNamed]
      exact List.cons_ne_nil _ _

end Endings

section PlainName

variable {name stem extension : Text} (h : splitExtension name = (stem, extension))
include h

theorem ofPlainName_of_lookup_eq_none
    (hSingle : combinedExtensions.lookup (Text.lower extension) = none) : ofPlainName name =
      if compressionExtensions.contains extension then ofExtension (splitExtension stem).2
      else ofExtension extension := by
  simp only [ofPlainName, h, hSingle]

/-- No archive is plain text. -/
theorem ofPlainName_of_lookup_eq_some {both : Text}
    (hBoth : combinedExtensions.lookup (Text.lower extension) = some both) : ofPlainName name = .other := by
  obtain ⟨front, back, hTable, _⟩ := List.lookup_eq_some_iff.mp hBoth
  obtain ⟨archive, hArchive, packing, hMem, hAppend⟩ :=
    packed_of_mem_combinedExtensions (Text.lower extension, both) (by rw [hTable]; simp)
  obtain ⟨hArchiveHead, hArchiveTail, hOther⟩ := other_of_mem_packable archive hArchive
  obtain ⟨hPackingHead, hPackingTail, _⟩ := extension_of_mem_compressionExtensions packing hMem
  obtain ⟨_, rfl | ⟨ending, hExtension, _, c, hStem, hDot⟩⟩ := of_splitExtension_eq h
  · cases hBoth
  have hInner : splitExtension (stem ++ archive) = (stem, archive) :=
    splitExtension_extension hArchiveHead hArchiveTail ⟨c, hStem, hDot⟩
  have hOuter : splitExtension (stem ++ both) = (stem ++ archive, packing) := by
    rw [show both = archive ++ packing from hAppend, ← List.append_assoc]
    exact splitExtension_extension hPackingHead hPackingTail ⟨c, List.mem_append_left archive hStem, hDot⟩
  have hContains : compressionExtensions.contains packing = true := by simpa using hMem
  simp only [ofPlainName, h, hBoth, hOuter, hContains, hInner, hOther, if_true]

/-- A name ends in a table exactly if the extension that is cut off does. -/
theorem endsIn_iff {table : List Text} (hProper : IsProper table) :
    EndsIn table name ↔ Text.lower extension ∈ table := by
  constructor
  · rintro ⟨hMem, hNamed⟩
    rcases Path.suffixOf_cases name with hNone | ⟨front, ending, hName, hDot, hSome⟩
    · rw [hNone] at hMem
      exact absurd rfl (hProper _ hMem).1
    · rw [hSome] at hMem hNamed
      rw [hName, splitExtension_append hDot (hNamed front hName)] at h
      rwa [← (Prod.mk.inj h).2]
  · intro hMem
    obtain ⟨hName, rfl | ⟨ending, rfl, hDot, hStem⟩⟩ := of_splitExtension_eq h
    · exact absurd rfl (hProper _ hMem).1
    · have hEnding : ending ≠ [] := by
        rintro rfl
        have hLower : Text.lower [.char '.'] = ("." : Text) := by decide +kernel
        exact (hProper _ hMem).2 hLower
      have hFront : stem ≠ [] := by
        obtain ⟨c, hIn, _⟩ := hStem
        exact List.ne_nil_of_mem hIn
      have hSuffix := Path.suffixOf_append hDot hFront hEnding
      rw [← hName] at hSuffix
      refine ⟨by rwa [hSuffix], fun front hAppend => ?_⟩
      rw [hSuffix, hName] at hAppend
      rwa [← List.append_cancel_right hAppend]

theorem isPacked_iff {table : List Text} (hProper : IsProper table) :
    IsPacked table name ↔ extension ∈ compressionExtensions ∧ Text.lower (splitExtension stem).2 ∈ table := by
  constructor
  · rintro ⟨packed, packing, hPacking, rfl, hPacked⟩
    obtain ⟨hHead, hTail, _⟩ := extension_of_mem_compressionExtensions packing hPacking
    rw [splitExtension_extension hHead hTail hPacked.exists_ne_dot] at h
    obtain ⟨rfl, rfl⟩ := Prod.mk.inj h
    exact ⟨hPacking, (endsIn_iff rfl hProper).mp hPacked⟩
  · rintro ⟨hPacking, hMem⟩
    exact ⟨stem, extension, hPacking, (of_splitExtension_eq h).1, (endsIn_iff rfl hProper).mpr hMem⟩

/-- Where the extension does not stand for two, the kinds are read off the tables. -/
theorem ofPlainName_eq_iff {table : List Text} {kind : Kind} (hSound : IsSound table)
    (hKind : ∀ extension, ofExtension extension = kind ↔ Text.lower extension ∈ table)
    (hSingle : combinedExtensions.lookup (Text.lower extension) = none) :
    ofPlainName name = kind ↔ EndsIn table name ∨ IsPacked table name := by
  rw [ofPlainName_of_lookup_eq_none h hSingle, endsIn_iff h hSound.proper, isPacked_iff h hSound.proper]
  split
  · next hContains =>
      have hMem : extension ∈ compressionExtensions := List.contains_iff_mem.mp hContains
      rw [hKind, or_iff_right (not_mem_of_code (hSound.unpacked extension hMem))]
      exact (and_iff_right hMem).symm
  · next hContains =>
      have hMem : extension ∉ compressionExtensions := fun hMem => hContains (List.contains_iff_mem.mpr hMem)
      rw [hKind]
      exact (or_iff_left fun hPacked => hMem hPacked.1).symm

/-- Nothing that ends in a sound table stands for two extensions. -/
theorem not_endsIn_of_lookup_eq_some {table : List Text} (hSound : IsSound table) {both : Text}
    (hBoth : combinedExtensions.lookup (Text.lower extension) = some both) :
    ¬ (EndsIn table name ∨ IsPacked table name) := by
  rw [endsIn_iff h hSound.proper, isPacked_iff h hSound.proper]
  rintro (hMem | ⟨hPacking, _⟩)
  · rw [lookup_combinedExtensions_eq_none_iff.mpr (not_mem_of_code (hSound.single _ hMem))] at hBoth
    cases hBoth
  · rw [(extension_of_mem_compressionExtensions extension hPacking).2.2.2] at hBoth
    cases hBoth

end PlainName

/-- A name that is no address is of plain text exactly if it is that of a text. -/
theorem ofPlainName_eq_plainText_iff {name : Text} : ofPlainName name = .plainText ↔ NamesText name := by
  cases hSplit : splitExtension name with
  | mk stem extension =>
      cases hLookup : combinedExtensions.lookup (Text.lower extension) with
      | none =>
          exact ofPlainName_eq_iff hSplit isSound_plainExtensions (fun _ => ofExtension_eq_plainText_iff)
            hLookup
      | some both =>
          rw [ofPlainName_of_lookup_eq_some hSplit hLookup]
          exact iff_of_false nofun (not_endsIn_of_lookup_eq_some hSplit isSound_plainExtensions hLookup)

/-- It is of another kind exactly if it is the name of something else. -/
theorem ofPlainName_eq_other_iff {name : Text} : ofPlainName name = .other ↔ NamesOther name := by
  cases hSplit : splitExtension name with
  | mk stem extension =>
      rw [NamesOther, ← or_assoc, endsIn_iff hSplit isProper_combinedExtensions]
      cases hLookup : combinedExtensions.lookup (Text.lower extension) with
      | none =>
          rw [ofPlainName_eq_iff hSplit isSound_otherExtensions (fun _ => ofExtension_eq_other_iff) hLookup]
          exact (or_iff_left (lookup_combinedExtensions_eq_none_iff.mp hLookup)).symm
      | some both =>
          rw [ofPlainName_of_lookup_eq_some hSplit hLookup]
          refine iff_of_true rfl (.inr (by_contra fun hNone => ?_))
          rw [lookup_combinedExtensions_eq_none_iff.mpr hNone] at hLookup
          cases hLookup

/-- Whatever is known has a suffix. -/
theorem NamesOther.suffixOf_ne_nil {name : Text} (h : NamesOther name) : Path.suffixOf name ≠ [] := by
  rcases h with hEnds | hPacked | hCombined
  · exact hEnds.suffixOf_ne_nil isSound_otherExtensions.proper
  · exact hPacked.suffixOf_ne_nil
  · exact hCombined.suffixOf_ne_nil isProper_combinedExtensions

section Scheme

variable {rule : SchemeRule} {name : Text}

theorem cutAtColon?_append {front : Text} (hColon : .char ':' ∉ front) (rest : Text) :
    cutAtColon? (front ++ .char ':' :: rest) = some (front, rest) := by
  rw [cutAtColon?, Text.takeWhile_ne_append hColon, Text.dropWhile_ne_append hColon]

theorem of_cutAtColon?_eq_some {front rest : Text} (h : cutAtColon? name = some (front, rest)) :
    name = front ++ .char ':' :: rest ∧ .char ':' ∉ front := by
  by_cases hColon : .char ':' ∈ name
  · obtain ⟨first, others, rfl, hFirst⟩ := List.eq_append_cons_of_mem hColon
    rw [cutAtColon?_append hFirst] at h
    cases h
    exact ⟨rfl, hFirst⟩
  · have hDrop : name.dropWhile (· ≠ .char ':') = [] :=
      List.dropWhile_eq_nil_iff.mpr (Text.all_ne_of_not_mem hColon)
    rw [cutAtColon?, hDrop] at h
    cases h

theorem colon_not_mem_of_isScheme {scheme : Text} (h : isScheme scheme = true) : .char ':' ∉ scheme := by
  intro hMem
  have hAll := List.all_eq_true.mp (Bool.and_eq_true_iff.mp h).2 _ hMem
  exact absurd hAll (by decide)

/-- The scheme that is cut off is the one that the rule finds. -/
theorem HasScheme.scheme?_eq {scheme path : Text} (h : HasScheme rule name scheme path) :
    scheme? rule name = some (Text.lower scheme, path) := by
  cases h with
  | lenient hScheme hColon =>
      simp only [scheme?, cutAtColon?_append hColon, Option.bind_eq_bind, Option.bind_some, if_neg hScheme]
  | strict hName hScheme hPath =>
      have hTake := (@Text.isUpTo_iff _ (fun c => !(pathEnds (Text.lower scheme)).contains c)
        (by simp) _ _).mp hPath
      simp only [scheme?, hName, cutAtColon?_append (colon_not_mem_of_isScheme hScheme),
        Option.bind_eq_bind, Option.bind_some, hScheme, if_true, hTake]

theorem exists_hasScheme_of_scheme? {lowered path : Text} (h : scheme? rule name = some (lowered, path)) :
    ∃ scheme, HasScheme rule name scheme path ∧ Text.lower scheme = lowered := by
  cases rule with
  | lenient =>
      obtain ⟨⟨scheme, rest⟩, hCut, hRest⟩ := Option.bind_eq_some_iff.mp h
      obtain ⟨rfl, hColon⟩ := of_cutAtColon?_eq_some hCut
      dsimp only at hRest
      split at hRest
      · cases hRest
      · next hScheme =>
          cases hRest
          exact ⟨scheme, .lenient hScheme hColon, rfl⟩
  | strict =>
      obtain ⟨⟨scheme, behind⟩, hCut, hBehind⟩ := Option.bind_eq_some_iff.mp h
      obtain ⟨hName, _⟩ := of_cutAtColon?_eq_some hCut
      dsimp only at hBehind
      split at hBehind
      · next hScheme =>
          cases hBehind
          exact ⟨scheme, .strict hName hScheme ((Text.isUpTo_iff (by simp)).mpr rfl), rfl⟩
      · cases hBehind

theorem ofName_of_isInline {data : Text} (h : IsInline rule name data) :
    ofName rule name = ofInlineData data := by
  obtain ⟨scheme, hScheme, hData⟩ := h
  simp only [ofName, hScheme.scheme?_eq, hData, if_true]

theorem ofName_of_isJudgedBy {text : Text} (h : IsJudgedBy rule name text) :
    ofName rule name = ofPlainName text := by
  cases h with
  | whole hNone =>
      have hScheme : scheme? rule name = none := by
        refine Option.eq_none_iff_forall_ne_some.mpr fun found hFound => ?_
        obtain ⟨scheme, hScheme, _⟩ := exists_hasScheme_of_scheme? hFound
        exact hNone scheme _ hScheme
      simp only [ofName, hScheme]
  | behind hScheme hData => simp only [ofName, hScheme.scheme?_eq, if_neg hData]

/-- A name looks like inline data, or there is something that it is judged by. -/
theorem isInline_or_isJudgedBy (rule : SchemeRule) (name : Text) :
    (∃ data, IsInline rule name data) ∨ ∃ text, IsJudgedBy rule name text := by
  by_cases hSome : ∃ scheme path, HasScheme rule name scheme path
  · obtain ⟨scheme, path, hScheme⟩ := hSome
    by_cases hData : Text.lower scheme = ("data" : Text)
    · exact .inl ⟨path, scheme, hScheme, hData⟩
    · exact .inr ⟨path, .behind hScheme hData⟩
  · exact .inr ⟨name, .whole fun scheme path hScheme => hSome ⟨scheme, path, hScheme⟩⟩

end Scheme

/-- Inline data are text exactly if they declare it, and of no known kind exactly if they have no comma. -/
theorem ofInlineData_spec {data : Text} : (ofInlineData data = .plainText ↔ DeclaresText data) ∧
    (ofInlineData data = .unknown ↔ .char ',' ∉ data) := by
  have hType : ∀ header type : Text, Text.IsUpTo (· = .char ';') header type ↔
      header.takeWhile (· ≠ .char ';') = type := fun _ _ => Text.isUpTo_iff (by simp)
  by_cases hComma : .char ',' ∈ data
  · obtain ⟨header, rest, rfl, hHeader⟩ := List.eq_append_cons_of_mem hComma
    have hDeclares : DeclaresText (header ++ .char ',' :: rest) ↔
        .char '=' ∈ header.takeWhile (· ≠ .char ';') ∨ .char '/' ∉ header.takeWhile (· ≠ .char ';') ∨
          header.takeWhile (· ≠ .char ';') = ("text/plain" : Text) := by
      constructor
      · rintro ⟨other, _, type, hData, hOther, hUpTo, hText⟩
        have hSame : other = header := by
          rw [← Text.takeWhile_ne_append hOther, ← hData, Text.takeWhile_ne_append hHeader]
        rwa [← hSame, (hType other type).mp hUpTo]
      · exact fun hText => ⟨header, rest, _, rfl, hHeader, (hType header _).mpr rfl, hText⟩
    rw [hDeclares, ofInlineData, if_pos (by simp), Text.takeWhile_ne_append hHeader]
    generalize header.takeWhile (· ≠ .char ';') = type
    simp only [List.contains_iff_mem]
    split
    · next hText => simp only [hText, hComma, reduceCtorEq, not_true_eq_false, and_self]
    · next hText => simp only [hText, hComma, reduceCtorEq, not_true_eq_false, and_self]
  · have hNot : ¬ DeclaresText data := by
      rintro ⟨header, rest, _, rfl, _⟩
      simp at hComma
    rw [ofInlineData, if_neg (by simpa using hComma)]
    simp [hNot, hComma]

section Files

variable [Runtime] {path : Path}

theorem isPlainText_eq_true_iff : isPlainText path = true ↔
    ofName Runtime.schemeRule path.name = .plainText ∨
      (ofName Runtime.schemeRule path.name = .unknown ∧ Path.suffixOf path.name = []) := by
  rw [isPlainText]
  cases ofName Runtime.schemeRule path.name <;> simp

theorem isPlainText_iff_of_isInline {data : Text} (h : IsInline Runtime.schemeRule path.name data) :
    isPlainText path = true ↔
      DeclaresText data ∨ (.char ',' ∉ data ∧ Path.suffixOf path.name = []) := by
  obtain ⟨hText, hUnknown⟩ := @ofInlineData_spec data
  rw [isPlainText_eq_true_iff, ofName_of_isInline h, hText, hUnknown]

theorem isPlainText_iff_of_isJudgedBy {text : Text} (h : IsJudgedBy Runtime.schemeRule path.name text) :
    isPlainText path = true ↔ NamesText text ∨ (Path.suffixOf path.name = [] ∧ ¬ NamesOther text) := by
  rw [isPlainText_eq_true_iff, ofName_of_isJudgedBy h, ← ofPlainName_eq_plainText_iff,
    ← ofPlainName_eq_other_iff]
  cases ofPlainName text <;> simp

/-- Which files are taken for text files, by either rule. A name that looks like inline data is judged by the
type it declares, or else by having no suffix. Any other name is judged by the path behind its scheme, or as a
whole if it has none: it is taken if this is the name of a text, compressed or not, or if there is no suffix and
this is not the name of something else. So a name without a scheme is that of a text file exactly if it has no
suffix, if it ends with an extension of plain text and not only dots stand in front of it, or if such a name has
been given the extension of a compression. -/
theorem isPlainText_iff (path : Path) :
    (isPlainText path = true ↔
      (∃ data, IsInline Runtime.schemeRule path.name data ∧
        (DeclaresText data ∨ (.char ',' ∉ data ∧ Path.suffixOf path.name = []))) ∨
      ∃ text, IsJudgedBy Runtime.schemeRule path.name text ∧
        (NamesText text ∨ (Path.suffixOf path.name = [] ∧ ¬ NamesOther text))) ∧
    ((∀ scheme rest, ¬ HasScheme Runtime.schemeRule path.name scheme rest) →
      (isPlainText path = true ↔ Path.suffixOf path.name = [] ∨ NamesText path.name)) := by
  refine ⟨⟨fun hPlain => ?_, ?_⟩, fun hNone => ?_⟩
  · rcases isInline_or_isJudgedBy Runtime.schemeRule path.name with ⟨data, hData⟩ | ⟨text, hText⟩
    · exact .inl ⟨data, hData, (isPlainText_iff_of_isInline hData).mp hPlain⟩
    · exact .inr ⟨text, hText, (isPlainText_iff_of_isJudgedBy hText).mp hPlain⟩
  · rintro (⟨data, hData, hTaken⟩ | ⟨text, hText, hTaken⟩)
    · exact (isPlainText_iff_of_isInline hData).mpr hTaken
    · exact (isPlainText_iff_of_isJudgedBy hText).mpr hTaken
  · rw [isPlainText_iff_of_isJudgedBy (.whole hNone), or_comm]
    exact or_congr_left (and_iff_left_of_imp fun hSuffix hOther => hOther.suffixOf_ne_nil hSuffix)

end Files

/-- A letter in front of a colon is a scheme by the one rule, with only a dot behind it in front of the extension,
and part of the name by the other. -/
example : ofName .lenient "c:.txt" = .unknown ∧ ofName .strict "c:.txt" = .plainText := by decide +kernel

/-- Behind dots alone the extension of a text file counts for nothing. -/
example : isPlainText (.ofText "...txt") = false ∧ Path.suffixOf "...txt" = ".txt" := by decide +kernel

/-- A compressed file is taken for a text file, though its suffix is no extension of plain text. -/
theorem compressed_text_is_plain_text : isPlainText (.ofText "notes.txt.gz") = true ∧
    Path.suffixOf (Path.ofText "notes.txt.gz").name = ".gz" ∧ Text.lower ".gz" ∉ plainExtensions := by
  decide +kernel

end FileKind

end ScenarioDesk
