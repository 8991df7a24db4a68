import ScenarioDesk.Proofs.Disk.AtomicWrite

/-! Reading a written file back. Nothing that is written needs the code page or replacement characters, so
all that reading changes is a byte order mark in front and the line ends. -/
namespace ScenarioDesk.Disk

/-- A text without halves of surrogate pairs is written wherever a file can be written at all. After any
write that succeeds the path can be read, its bytes are accepted as UTF-8, and what is read is the text
with line feeds as its only line ends, without the byte order mark in front if it has one. -/
theorem written_text_is_read_back [Runtime] (path : Path) (text : Text) (disk : Disk) :
    (text.isWhole = true → disk.Accepts path →
      ∃ written, writeAtomically path text disk = .ok () written) ∧
    ∀ written, writeAtomically path text disk = .ok () written → ∃ content,
      written.read path = .ok content ∧
      FileText.decodeMarked content = .ok (FileText.withoutMark text) ∧
      FileText.read content = Text.normalizeNewlines (FileText.withoutMark text) := by
  refine ⟨fun hWhole hDisk => hDisk.exists_ok hWhole, fun written hWrite => ?_⟩
  obtain ⟨content, hEncode, hWrote⟩ := writeAtomically_ok hWrite
  exact ⟨content, hWrote.read_eq, FileText.decodeMarked_encode hEncode, FileText.read_encode hEncode⟩

/-- A text with two byte order marks in front, line ends of every kind, and characters of two, three and
four bytes. -/
def marked : Text := "\uFEFF\uFEFFж\r\n€\r\r😀\n"

/-- One of the marks comes back with it. -/
theorem marked_is_read_back : ∃ written content,
    writeAtomically (Path.ofText "notes/a.feature") marked {} = .ok () written ∧
      written.read (Path.ofText "notes/a.feature") = .ok content ∧
      FileText.read content = "\uFEFFж\n€\n\n😀\n" := by
  obtain ⟨hWrite, hRead⟩ := written_text_is_read_back (Path.ofText "notes/a.feature") marked {}
  obtain ⟨written, hWritten⟩ := hWrite (by decide) ⟨_, rfl⟩
  obtain ⟨content, hContent, _, hText⟩ := hRead written hWritten
  exact ⟨written, content, hWritten, hContent, hText.trans (by decide +kernel)⟩

end ScenarioDesk.Disk
