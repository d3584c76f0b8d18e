import Steering.Proofs.Disk
import Steering.Proofs.Store.Document

/-!
# What a change does to a workspace

A change is computed, written and kept, in this order. `commit_eq_ok_iff` says what has happened
when it succeeds, `eq_of_commit_error` that nothing has happened when it fails. Once a change has
been written the next one can be written too, if the file is steady.
-/

namespace Steering.Workspace

open Store Traffic

variable {α : Type} {kind : Kind} {w after : Workspace}

/-- The workspace with another document in its store, and a disk to go with it. -/
def keep (w : Workspace) (document : Document) (disk : Disk) : Workspace :=
  { disk, store := { w.store with document := document } }

/-- The workspace on another disk. -/
def onDisk (w : Workspace) (disk : Disk) : Workspace := { w with disk }

theorem commit_eq_ok_iff {change : Document → Except TrafficError (α × Document)} {result : α} :
    w.commit change = (.ok result, after) ↔
      ∃ document disk, change w.store.document = .ok (result, document) ∧
        Store.save { w.store with document := document } w.disk = .ok disk ∧
        after = w.keep document disk := by
  unfold commit
  cases changed : change w.store.document with
  | error e => simp
  | ok pair =>
    obtain ⟨value, document⟩ := pair
    cases saved : Store.save { w.store with document := document } w.disk with
    | error e => simp [saved]
    | ok disk =>
      simp only [saved, Prod.mk.injEq, Except.ok.injEq]
      constructor
      · rintro ⟨rfl, rfl⟩
        exact ⟨document, disk, ⟨rfl, rfl⟩, saved, rfl⟩
      · rintro ⟨_, other, ⟨rfl, rfl⟩, again, rfl⟩
        rw [saved] at again
        cases again
        exact ⟨rfl, rfl⟩

/-- **A change that fails changes nothing**: it could not be computed, or not be written. -/
theorem eq_of_commit_error {change : Document → Except TrafficError (α × Document)}
    {e : TrafficError} (failed : w.commit change = (.error e, after)) : after = w := by
  unfold commit at failed
  split at failed
  next =>
    cases failed
    rfl
  next =>
    dsimp only at failed
    split at failed <;> cases failed
    rfl

/-- A resource that has been created is in the document, which is in the store. -/
theorem create_eq_ok_iff {now : Instant} {item stored : kind.Item} :
    w.create now item = (.ok stored, after) ↔
      ∃ disk, w.store.document.create now item = .ok (stored, w.store.document.add stored) ∧
        Store.save { w.store with document := w.store.document.add stored } w.disk = .ok disk ∧
        after = w.keep (w.store.document.add stored) disk := by
  rw [create, commit_eq_ok_iff]
  constructor
  · rintro ⟨document, disk, created, saved, rfl⟩
    obtain ⟨_, _, _, rfl⟩ := Document.create_eq_ok_iff.mp created
    exact ⟨disk, created, saved, rfl⟩
  · rintro ⟨disk, created, saved, rfl⟩
    exact ⟨_, disk, created, saved, rfl⟩

theorem delete_eq_ok_iff {id : Nat} :
    w.delete kind id = (.ok (), after) ↔
      ∃ disk, w.store.document.delete kind id = .ok (w.store.document.remove kind id) ∧
        Store.save { w.store with document := w.store.document.remove kind id } w.disk = .ok disk ∧
        after = w.keep (w.store.document.remove kind id) disk := by
  rw [delete, commit_eq_ok_iff]
  constructor
  · rintro ⟨document, disk, deleted, saved, rfl⟩
    cases gone : w.store.document.delete kind id with
    | error e => simp [gone, Except.map] at deleted
    | ok smaller =>
      obtain ⟨_, rfl⟩ := Document.delete_eq_ok_iff.mp gone
      simp only [gone, Except.map, Except.ok.injEq, Prod.mk.injEq, true_and] at deleted
      subst deleted
      exact ⟨disk, rfl, saved, rfl⟩
  · rintro ⟨disk, deleted, saved, rfl⟩
    exact ⟨_, disk, by simp [deleted, Except.map], saved, rfl⟩

theorem eq_of_create_error {now : Instant} {item : kind.Item} {e : TrafficError}
    (failed : w.create now item = (.error e, after)) : after = w :=
  eq_of_commit_error failed

theorem eq_of_delete_error {id : Nat} {e : TrafficError}
    (failed : w.delete kind id = (.error e, after)) : after = w :=
  eq_of_commit_error failed

/-- What holds of the document, and holds of it with the new resource, still holds after creating,
whether or not that succeeds. -/
theorem create_keeps {P : Document → Prop} {now : Instant} {item : kind.Item}
    (holds : P w.store.document)
    (added : (∀ other ∈ w.store.document.items kind, Kind.nameOf other ≠ Kind.nameOf item) →
      P (w.store.document.add (Document.asStored now w.store.document.freeId item))) :
    P (w.create now item).2.store.document := by
  rcases done : w.create now item with ⟨_ | stored, after⟩
  · rwa [eq_of_create_error done]
  · obtain ⟨disk, created, -, rfl⟩ := create_eq_ok_iff.mp done
    obtain ⟨new, -, rfl, -⟩ := Document.create_eq_ok_iff.mp created
    exact added new

theorem delete_keeps {P : Document → Prop} {id : Nat} (holds : P w.store.document)
    (removed : P (w.store.document.remove kind id)) : P (w.delete kind id).2.store.document := by
  rcases done : w.delete kind id with ⟨_ | _, after⟩
  · rwa [eq_of_delete_error done]
  · obtain ⟨disk, -, -, rfl⟩ := delete_eq_ok_iff.mp done
    exact removed

/-! ### Whether a change can be written -/

/-- Whether the file can be opened does not depend on its being there. A store in memory has no
file. -/
def Steady (w : Workspace) : Prop := ∀ path ∈ w.store.path, w.disk.Steady path

/-- Any document can be written. -/
def Writable (w : Workspace) : Prop :=
  ∀ document, ∃ disk, Store.save { w.store with document := document } w.disk = .ok disk

theorem writable_of_inMemory (inMemory : w.store.path = none) : w.Steady ∧ w.Writable := by
  refine ⟨fun path isBound => ?_, fun document => ⟨w.disk, ?_⟩⟩
  · simp [inMemory] at isBound
  · simp [Store.save, inMemory]

/-- After a change has been written any other can be. -/
theorem Steady.keep (steady : w.Steady) {document : Document} {disk : Disk}
    (saved : Store.save { w.store with document := document } w.disk = .ok disk) :
    (w.keep document disk).Steady ∧ (w.keep document disk).Writable := by
  cases bound : w.store.path with
  | none => exact writable_of_inMemory bound
  | some path =>
    simp only [Store.save, bound, Store.saveTo] at saved
    split at saved
    next after written =>
      cases saved
      obtain ⟨still, again⟩ := Disk.write_of_write (steady path bound) written
      refine ⟨fun other isBound => ?_, fun other => ?_⟩
      · simp only [Workspace.keep, bound, Option.mem_some_iff] at isBound
        exact isBound ▸ still
      · obtain ⟨next, rewritten⟩ := again other.toText
        exact ⟨next, by simp [Workspace.keep, Store.save, bound, Store.saveTo, rewritten]⟩
    next => cases saved

end Steering.Workspace
