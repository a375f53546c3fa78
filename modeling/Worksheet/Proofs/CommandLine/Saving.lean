import Worksheet.Proofs.CommandLine.FileTree
import Worksheet.Proofs.Document.Json

namespace Worksheet

/-!
Saving and opening.  The text under which a document is saved describes the
document, so a file that was written with it gives the document back as long as
the file is not too large to be opened.
-/

namespace Document

/-- Loading undoes saving. -/
theorem load?_save {document : Document}
    (readsBack : ∀ number ∈ document.doubles, Json.ReadsBack number)
    (regular : ∀ instant ∈ document.lastModified, instant.IsRegular) :
    load? document.save = some document := by
  have faithful := Document.faithful readsBack regular
  have lineEnd : ∀ c ∈ "\n".toList, Json.isSpace c := by
    intro c member
    rw [List.mem_singleton.mp member]
    rfl
  rw [load?, save, Json.indented, String.toList_append, String.toList_ofList,
    Json.parse?_write Json.spaced_indentedLayout faithful.wellFormed lineEnd 0, Option.bind_some,
    faithful.reads]

end Document

namespace CommandLine
namespace Session

variable {now : Instant} {settingsFile : Option String} {session after : Session}
  {path text : String}

theorem run_write (now : Instant) (settingsFile : Option String) (session : Session)
    (path text : String) :
    ((host now settingsFile).write path text).run session =
      match session.tree.write path text with
      | .ok tree => pure (.ok (), { session with tree })
      | .error error => pure (.error error, session) := by
  cases done : session.tree.write path text with
  | ok tree => simp [host, done]
  | error error => simp [host, done]

/-- A write of the host that succeeds is one to the files of the session and
changes nothing else. -/
theorem write_of_run (written : ((host now settingsFile).write path text).run session =
      (.ok (), after)) :
    ∃ tree, session.tree.write path text = .ok tree ∧ after = { session with tree } := by
  rw [run_write] at written
  cases done : session.tree.write path text with
  | ok tree =>
    rw [done] at written
    exact ⟨tree, rfl, (Prod.mk.inj written).2.symm⟩
  | error error =>
    rw [done] at written
    cases written

end Session

open Session (host)

variable {now : Instant} {settingsFile : Option String} {session after : Session}
  {path text : String} {document : Document}

/-- A file that is not too large is opened as the document that its text
describes. -/
theorem run_openFile (size : session.tree.size path = .ok text.utf8ByteSize)
    (read : session.tree.read path = .ok text) (small : text.utf8ByteSize ≤ Document.maxFileBytes)
    (loads : Document.load? text = some document) :
    (openFile (host now settingsFile) path).run session = (.ok document, session) := by
  have fits : ¬Document.maxFileBytes < text.utf8ByteSize := Nat.not_lt.mpr small
  have runs : (openFile (host now settingsFile) path).run session =
      pure (.ok document, session) := by
    unfold openFile
    simp [host, size, read, fits, loads]
  exact runs

/-- Opening a file undoes saving a document in it, whatever texts and settings
the document holds.  Its doubles have to be read back from their shortest
decimals, and the time of its last change has to be one that four digits of the
year can name. -/
theorem openFile_of_saved
    (saved : ((host now settingsFile).write path document.save).run session = (.ok (), after))
    (small : document.save.utf8ByteSize ≤ Document.maxFileBytes)
    (readsBack : ∀ number ∈ document.doubles, Json.ReadsBack number)
    (regular : ∀ instant ∈ document.lastModified, instant.IsRegular) :
    (openFile (host now settingsFile) path).run after = (.ok document, after) := by
  rcases Session.write_of_run saved with ⟨tree, written, rfl⟩
  exact run_openFile (FileTree.size_write written) (FileTree.read_write written) small
    (Document.load?_save readsBack regular)

/-- A document with escapes in its texts, an empty format and an exponent. -/
def budget : Document :=
  { id := 7
    name := some "Q1"
    data := .ofList
      [("A1", { value := some "\"6\"", type := some .text, format := some {} }),
        ("é\n", { formula := some "=A1", format := some { fontSize := some 12.5 } })]
    columnWidths := some ((∅ : Dimensions).insert "A" 1.0e-7)
    lastModified := some ⟨⟨2024, 2, 29⟩, 3661, 500000000⟩ }

theorem openFile_of_saved_budget :
    let session : Session := { tree := { workingDirectory := ["home"] } }
    let after : Session :=
      { tree := session.tree.insert ["home", "q1.json"] (.text budget.save) }
    let host := Session.host ⟨⟨2024, 3, 1⟩, 0, 0⟩ none
    (host.write "q1.json" budget.save).run session = (.ok (), after) ∧
      budget.save.utf8ByteSize ≤ Document.maxFileBytes ∧
      (∀ number ∈ budget.doubles, Json.ReadsBack number) ∧
      (∀ instant ∈ budget.lastModified, instant.IsRegular) ∧
      (openFile host "q1.json").run after = (.ok budget, after) := by
  intro session after host
  have saved : (host.write "q1.json" budget.save).run session = (.ok (), after) := by
    rw [Session.run_write]
    rfl
  have small : budget.save.utf8ByteSize ≤ Document.maxFileBytes := by decide +kernel
  have readsBack : ∀ number ∈ budget.doubles, Json.ReadsBack number := by decide +kernel
  have regular : ∀ instant ∈ budget.lastModified, instant.IsRegular := by
    intro instant modified
    cases modified
    exact ⟨by decide, by decide, by decide, by decide⟩
  exact ⟨saved, small, readsBack, regular, openFile_of_saved saved small readsBack regular⟩

end CommandLine
end Worksheet
