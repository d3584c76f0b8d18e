import Steering.Disk

/-!
# Writing and reading back

A file that has been written holds what was written, and can be written again if whether it can
be opened does not depend on its being there (`Disk.Steady`). Only the file at the path is changed.
-/

namespace Steering.Disk

variable {disk after : Disk} {path text : String}

/-- A file that cannot be opened for writing is there, so that writing it for the first time does
not keep it from being written again. -/
def Steady (disk : Disk) (path : String) : Prop :=
  Path.ofText path ∈ disk.readOnly → (disk.find? (Path.ofText path)).isSome = true

theorem find?_put (disk : Disk) (path : String) (content : FileContent) :
    (disk.put path content).find? (Path.ofText path) = some content := by
  simp [find?, put]

/-- A file is not in the way of itself. -/
theorem hasDirectory_put {content : FileContent}
    (free : disk.hasDirectory (Path.ofText path) = false) :
    (disk.put path content).hasDirectory (Path.ofText path) = false := by
  have below : ∀ file ∈ disk.files, (Path.ofText path).above file.1 = false := by
    simp only [hasDirectory, Bool.or_eq_false_iff, List.any_eq_false, Bool.not_eq_true] at free
    exact free.1.2
  have itself : (Path.ofText path).above (Path.ofText path) = false := by simp [Path.above]
  simp only [hasDirectory, Bool.or_eq_false_iff] at free ⊢
  refine ⟨⟨free.1.1, ?_⟩, free.2⟩
  simp only [put, List.any_eq_false, Bool.not_eq_true]
  rintro file member
  rcases List.mem_cons.mp member with rfl | member
  · exact itself
  · exact below file (List.mem_filter.mp member).1

/-- What a write that succeeds has found: a path that is no directory's, and a file that can be
opened or none. -/
structure Opened (disk : Disk) (path : String) : Prop where
  noNul : '\x00' ∉ path.toList
  named : path ≠ ""
  free : disk.hasDirectory (Path.ofText path) = false
  asFile : (Path.ofText path).asDirectory = false
  writable : (disk.find? (Path.ofText path)).isSome = true →
    Path.ofText path ∉ disk.readOnly

theorem guard_eq_ok {ε α : Type} {c : Prop} [Decidable c] {e : ε} {x : Except ε α} {a : α} :
    (if c then .error e else x) = .ok a ↔ ¬c ∧ x = .ok a := by
  split <;> simp [*]

theorem opened_of_write (written : disk.write path text = .ok after) :
    Opened disk path ∧ after = disk.put path (.text text) := by
  simp only [write, guard_eq_ok, List.contains_eq_mem, decide_eq_true_eq, Bool.not_eq_true]
    at written
  obtain ⟨noNul, named, free, written⟩ := written
  split at written
  next there =>
    simp only [guard_eq_ok, Bool.not_eq_true] at written
    obtain ⟨asFile, writable, put⟩ := written
    cases put
    exact ⟨⟨noNul, named, free, asFile, fun _ => by simpa using writable⟩, rfl⟩
  next missing =>
    split at written
    next =>
      simp only [guard_eq_ok, Bool.not_eq_true] at written
      obtain ⟨-, asFile, put⟩ := written
      cases put
      exact ⟨⟨noNul, named, free, asFile, fun there => absurd there missing⟩, rfl⟩
    next => cases written

theorem Opened.write_eq (opened : Opened disk path)
    (there : (disk.find? (Path.ofText path)).isSome = true) (text : String) :
    disk.write path text = .ok (disk.put path (.text text)) := by
  unfold write
  simp [opened.noNul, opened.named, opened.free, opened.asFile, there, opened.writable there]

/-- What is there after a write that has succeeded. -/
theorem Opened.put (opened : Opened disk path) (steady : disk.Steady path) (content : FileContent) :
    Opened (disk.put path content) path where
  noNul := opened.noNul
  named := opened.named
  free := hasDirectory_put opened.free
  asFile := opened.asFile
  writable _ listed := opened.writable (steady listed) listed

theorem Steady.put (path : String) (content : FileContent) : (disk.put path content).Steady path :=
  fun _ => by simp [find?_put]

/-- **A file that has been written can be read**, and holds what was written. -/
theorem read_of_write (written : disk.write path text = .ok after) :
    after.read path = .ok (.text text) := by
  obtain ⟨opened, rfl⟩ := opened_of_write written
  unfold read
  simp [opened.noNul, opened.named, hasDirectory_put opened.free, find?_put, opened.asFile]

/-- A file that has been written can be written again. -/
theorem write_of_write (steady : disk.Steady path) (written : disk.write path text = .ok after) :
    after.Steady path ∧ ∀ other, ∃ next, after.write path other = .ok next := by
  obtain ⟨opened, rfl⟩ := opened_of_write written
  refine ⟨Steady.put path _, fun other => ⟨_, (opened.put steady _).write_eq ?_ other⟩⟩
  simp [find?_put]

end Steering.Disk
