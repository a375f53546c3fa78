import Worksheet.CommandLine.FileTree

namespace Worksheet
namespace CommandLine

/-!
What a write leaves in a tree of files.  A file is put where nothing or another
file was, so every directory on the way to it stays one, and the path that it
was written under leads to it afterwards.
-/

namespace FileTree

variable {α β : Type} {tree after : FileTree} {location place start : Location} {content : Content}
  {path text : String}

/-! ## Entries -/

@[simp] theorem content?_insert_self (tree : FileTree) (location : Location)
    (content : Content) : (tree.insert location content).content? location = some content := by
  simp [insert, content?]

theorem content?_insert_of_ne (different : place ≠ location) :
    (tree.insert location content).content? place = tree.content? place := by
  have others : (tree.files.filter (·.1 ≠ location)).find? (·.1 = place) =
      tree.files.find? (·.1 = place) := by
    rw [List.find?_filter]
    congr 1
    funext file
    by_cases same : file.1 = place
    · simp [same, different]
    · simp [same]
  have skipped : ((location, content) :: tree.files.filter (·.1 ≠ location)).find? (·.1 = place) =
      tree.files.find? (·.1 = place) := by
    rw [List.find?_cons_of_neg (by simpa using different.symm), others]
  exact congrArg (Option.map Prod.snd) skipped

theorem entry_insert_self (tree : FileTree) (location : Location) (content : Content) :
    (tree.insert location content).entry location = .file content := by
  rw [entry, content?_insert_self]

theorem entry_eq_directory :
    tree.entry place = .directory ↔ tree.content? place = none ∧ tree.isDirectory place = true := by
  unfold entry
  cases tree.content? place with
  | some content => simp
  | none => simp

/-- What lay below a place still does when a file is put into the tree, since a
file is only replaced at its own location. -/
theorem isDirectory_insert (isDirectory : tree.isDirectory place = true) :
    (tree.insert location content).isDirectory place = true := by
  simp only [FileTree.isDirectory, Bool.or_eq_true] at isDirectory ⊢
  rcases isDirectory with made | below
  · exact .inl made
  right
  rcases List.any_eq_true.mp below with ⟨file, member, isAbove⟩
  refine List.any_eq_true.mpr ?_
  by_cases same : file.1 = location
  · exact ⟨(location, content), List.mem_cons_self, same ▸ isAbove⟩
  · have kept : file ∈ tree.files.filter (·.1 ≠ location) :=
      List.mem_filter.mpr ⟨member, by simpa using same⟩
    exact ⟨file, List.mem_cons_of_mem _ kept, isAbove⟩

theorem entry_insert_directory (free : tree.entry location ≠ .directory)
    (directory : tree.entry place = .directory) :
    (tree.insert location content).entry place = .directory := by
  have different : place ≠ location := by
    rintro rfl
    exact free directory
  rcases entry_eq_directory.mp directory with ⟨noFile, isDirectory⟩
  rw [entry_eq_directory, content?_insert_of_ne different]
  exact ⟨noFile, isDirectory_insert isDirectory⟩

/-! ## Paths -/

theorem enter_insert (free : tree.entry location ≠ .directory) {names : List String}
    (enters : tree.enter start names = .ok place) :
    (tree.insert location content).enter start names = .ok place := by
  induction names generalizing start with
  | nil => exact enters
  | cons name rest ih =>
    unfold enter at enters ⊢
    cases leads : step start name with
    | error error =>
      rw [leads] at enters
      cases enters
    | ok inner =>
      rw [leads] at enters
      simp only at enters ⊢
      cases found : tree.entry inner with
      | directory =>
        rw [found] at enters
        rw [entry_insert_directory free found]
        exact ih enters
      | file _ =>
        rw [found] at enters
        cases enters
      | nothing =>
        rw [found] at enters
        cases enters

/-- A chain that succeeds does so step by step. -/
theorem of_bind_eq_ok {first : Except FileError α} {next : α → Except FileError β} {result : β}
    (succeeds : first >>= next = .ok result) : ∃ a, first = .ok a ∧ next a = .ok result := by
  cases first with
  | error error => cases succeeds
  | ok a => exact ⟨a, rfl, succeeds⟩

theorem locate_insert (free : tree.entry location ≠ .directory)
    (leads : tree.locate path = .ok place) :
    (tree.insert location content).locate path = .ok place := by
  rcases of_bind_eq_ok leads with ⟨_, valid, leads⟩
  rcases of_bind_eq_ok leads with ⟨directory, enters, steps⟩
  have still : (tree.insert location content).parent path = .ok directory :=
    enter_insert free enters
  rw [locate, valid, still]
  exact steps

/-! ## Writing -/

/-- A write that succeeds puts the text where the path leads, which is not a
directory. -/
theorem write_eq_ok (written : tree.write path text = .ok after) :
    ∃ location, tree.locate path = .ok location ∧ tree.entry location ≠ .directory ∧
      after = tree.insert location (.text text) := by
  rcases of_bind_eq_ok written with ⟨_, _, written⟩
  split at written
  · rcases of_bind_eq_ok written with ⟨_, _, fails⟩
    cases fails
  · rcases of_bind_eq_ok written with ⟨location, leads, written⟩
    split at written
    · cases written
    · next free => exact ⟨location, leads, free, (Except.ok.inj written).symm⟩

/-- The path under which a text was written leads to it. -/
theorem find_write (written : tree.write path text = .ok after) :
    after.find path = .ok (.file (.text text)) := by
  rcases write_eq_ok written with ⟨location, leads, free, rfl⟩
  have found : (tree.insert location (.text text)).entry location = .file (.text text) :=
    entry_insert_self tree location _
  unfold find
  rw [locate_insert free leads]
  simp only [bind, Except.bind, found]
  rfl

theorem size_write (written : tree.write path text = .ok after) :
    after.size path = .ok text.utf8ByteSize := by
  rw [size, find_write written]
  rfl

theorem read_write (written : tree.write path text = .ok after) : after.read path = .ok text := by
  rw [read, find_write written]
  rfl

end FileTree
end CommandLine
end Worksheet
