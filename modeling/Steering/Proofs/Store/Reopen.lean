import Steering.Proofs.Store.Format
import Steering.Proofs.Store.Plan

/-!
# Opening the state file again

A workspace is *saved* if opening the state file gives the store that it has. It is saved when the
store has just been opened, and creating and deleting keep it saved, whether or not they succeed:
what has been written is what the store then holds, and a failure changes neither. The counter is
written with the rest, so none of this holds of a counter too large for the file.
-/

namespace Steering

open Traffic Store

namespace Store

variable {disk : Disk} {path : String} {store : Store}

theorem fits_seed : seed.Fits := by
  intro kind item there
  cases kind with
  | platform =>
    have bare : ∀ p ∈ seed.platforms, p.id < 2 ^ 64 ∧ p.archetype = none ∧ p.sonar = none ∧
        p.created = none ∧ p.modified = none := by decide
    obtain ⟨id, archetype, sonar, created, modified⟩ := bare item there
    exact ⟨id, by simp [archetype], by simp [sonar], by simp [created], by simp [modified]⟩
  | alert | application | zone => exact absurd there List.not_mem_nil

theorem settled_seed : seed.Settled := by
  change seed.maxId < seed.nextId
  decide

/-- What holds of every store that has been loaded from a file. -/
theorem load_spec (loaded : load disk path = .ok store) :
    store.path = some path ∧ store.document.Fits ∧ store.document.Settled := by
  unfold load at loaded
  split at loaded
  · split at loaded
    next document read =>
      obtain ⟨text, -, parsed⟩ := Option.bind_eq_some_iff.mp read
      cases loaded
      refine ⟨rfl, fun kind item there => ?_, document.settled_settled⟩
      exact (Document.fits_of_parse? parsed).1 kind item (document.items_settled kind ▸ there)
    next => cases loaded
  all_goals cases loaded

/-- What holds of every store that has been opened. -/
theorem openAt_spec (opened : openAt disk path = .ok store) :
    store.path = some path ∧ store.document.Fits ∧ store.document.Settled := by
  unfold openAt at opened
  split at opened
  · exact load_spec opened
  · cases opened
    exact ⟨rfl, fits_seed, settled_seed⟩

/-- The file of a store that has been saved holds the text of its document. -/
theorem read_of_save {after : Disk} (bound : store.path = some path)
    (saved : store.save disk = .ok after) :
    after.read path = .ok (.text store.document.toText) := by
  simp only [save, bound, saveTo] at saved
  split at saved
  next written =>
    cases saved
    exact Disk.read_of_write written
  next => cases saved

/-- A store that has been saved is what is loaded then. -/
theorem load_of_save {after : Disk} (bound : store.path = some path) (fits : store.document.Fits)
    (settled : store.document.Settled) (counter : store.document.nextId < 2 ^ 64)
    (saved : store.save disk = .ok after) : load after path = .ok store := by
  rw [load, read_of_save bound saved]
  simp only [stateText?, Option.bind_some, Document.parse?_toText fits counter,
    settled.settled_eq, ← bound]

/-- What has been written is what is opened then. -/
theorem openAt_of_save {after : Disk} (bound : store.path = some path) (fits : store.document.Fits)
    (settled : store.document.Settled) (counter : store.document.nextId < 2 ^ 64)
    (saved : store.save disk = .ok after) : openAt after path = .ok store := by
  have there : after.has path = true := by rw [Disk.has, read_of_save bound saved]
  rw [openAt, if_pos there, load_of_save bound fits settled counter saved]

end Store

namespace Store.Document

variable {kind : Kind} {doc : Document}

theorem Fits.add (fits : doc.Fits) {item : kind.Item} (fit : Kind.Fits item) :
    (doc.add item).Fits :=
  forall_items_add fits fit

theorem Fits.remove (fits : doc.Fits) (kind : Kind) (id : Nat) : (doc.remove kind id).Fits :=
  forall_items_remove fits kind id

/-- A counter that need not be raised is above every id and is not zero. -/
theorem settled_iff : doc.Settled ↔ 0 < doc.nextId ∧ doc.Counted := maxId_lt_iff

theorem Settled.add (settled : doc.Settled) {item : kind.Item} (free : Kind.id item = doc.freeId) :
    (doc.add item).Settled :=
  settled_iff.mpr ⟨Nat.succ_pos _, (settled_iff.mp settled).2.add free⟩

theorem Settled.remove (settled : doc.Settled) (kind : Kind) (id : Nat) :
    (doc.remove kind id).Settled := by
  obtain ⟨positive, counted⟩ := settled_iff.mp settled
  exact settled_iff.mpr ⟨by rwa [nextId_remove], counted.remove kind id⟩

end Store.Document

namespace Workspace

variable {w : Workspace} {path : String} {kind : Kind}

/-- Opening the file gives the store, unless the counter has become too large for the file. -/
def Saved (path : String) (w : Workspace) : Prop :=
  w.store.document.nextId < 2 ^ 64 → Store.openAt w.disk path = .ok w.store

theorem Saved.create (saved : w.Saved path) {now : Instant} {item : kind.Item}
    (fits : ∀ id < 2 ^ 64, Kind.Fits (Document.asStored now id item)) :
    (w.create now item).2.Saved path := by
  rcases done : w.create now item with ⟨_ | stored, after⟩
  · rw [eq_of_create_error done]
    exact saved
  · intro counter
    obtain ⟨disk, created, written, rfl⟩ := create_eq_ok_iff.mp done
    obtain ⟨-, -, rfl, -⟩ := Document.create_eq_ok_iff.mp created
    -- The new resource has the last id that the counter has passed.
    have free : w.store.document.freeId < 2 ^ 64 := Nat.lt_of_succ_lt counter
    obtain ⟨bound, fitsOld, settled⟩ :=
      Store.openAt_spec (saved (w.store.document.nextId_le_freeId.trans_lt free))
    exact Store.openAt_of_save bound (fitsOld.add (fits _ free))
      (settled.add (Document.id_asStored now _ item)) counter written

theorem Saved.delete (saved : w.Saved path) (id : Nat) : (w.delete kind id).2.Saved path := by
  rcases done : w.delete kind id with ⟨_ | _, after⟩
  · rw [eq_of_delete_error done]
    exact saved
  · intro counter
    obtain ⟨disk, -, written, rfl⟩ := delete_eq_ok_iff.mp done
    have below : w.store.document.nextId < 2 ^ 64 := by
      simpa [keep, Document.nextId_remove] using counter
    obtain ⟨bound, fits, settled⟩ := Store.openAt_spec (saved below)
    exact Store.openAt_of_save bound (fits.remove kind id) (settled.remove kind id) counter written

end Workspace

end Steering
