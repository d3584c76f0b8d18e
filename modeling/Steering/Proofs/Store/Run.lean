import Steering.Proofs.Store.Reopen

/-!
# Runs of a store

A store is changed by creating and deleting resources. Between two calls its file may change in any
way, so a call carries the disk that it finds. `Call.Moves` lists what a call may do to the
document, one constructor for each way; what every move keeps, a run of any length keeps
(`after_keeps`).

The counter is one for the four kinds and never falls, so no id is given out twice, not even after
the resource that had it is gone (`run_invariant`).
-/

namespace Steering

open Traffic

namespace Store

/-- The stores that a run begins with: nothing, the community platforms, or what is in a state
file. -/
inductive Begun : Store → Prop
  | empty (path : Option String) : Begun { inMemory with path }
  | seeded (path : Option String) : Begun { seeded with path }
  | loaded {disk : Disk} {path : String} {store : Store} (loaded : load disk path = .ok store) :
    Begun store
  | opened {disk : Disk} {path : String} {store : Store} (opened : openAt disk path = .ok store) :
    Begun store

/-- What a store can be asked to change. -/
inductive Change where
  | create (kind : Kind) (item : kind.Item)
  | delete (kind : Kind) (id : Nat)

namespace Change

/-- What a change is answered with once it has been made. -/
@[reducible] def Answer : Change → Type
  | .create kind _ => kind.Item
  | .delete _ _ => Unit

def make (now : Instant) (w : Workspace) :
    (change : Change) → Except TrafficError change.Answer × Workspace
  | .create _ item => w.create now item
  | .delete kind id => w.delete kind id

/-- The id in the answer, if a resource has been made. -/
def madeId? : (change : Change) → change.Answer → Option Nat
  | .create _ _, stored => some (Kind.id stored)
  | .delete _ _, _ => none

end Change

/-- A change that is asked for, the time, and the disk as it is then. -/
structure Call where
  change : Change
  now : Instant
  disk : Disk

def Call.run (call : Call) (w : Workspace) :
    Except TrafficError call.change.Answer × Workspace :=
  call.change.make call.now (w.onDisk call.disk)

/-- Whether the call succeeds, and the id that it then gives out, if it does. -/
def Call.made (call : Call) (w : Workspace) : Except TrafficError (Option Nat) :=
  (call.run w).1.map call.change.madeId?

end Store

namespace Workspace

open Store

/-- The workspace after some calls. -/
def after (w : Workspace) (calls : List Call) : Workspace :=
  calls.foldl (fun w call => (call.run w).2) w

/-- The ids that calls have been answered with, in the order of the calls. -/
def madeIds (w : Workspace) : List Call → List Nat
  | [] => []
  | call :: calls => (call.made w).toOption.join.toList ++ (call.run w).2.madeIds calls

theorem after_append (w : Workspace) (calls more : List Call) :
    w.after (calls ++ more) = (w.after calls).after more :=
  List.foldl_append

end Workspace

namespace Store

variable {w : Workspace} {doc next : Document} {call : Call}
variable {made : Except TrafficError (Option Nat)}

/-! ### What a call does -/

/-- What a call may come to, and what it then does to the document. -/
inductive Call.Moves (call : Call) (doc : Document) :
    Except TrafficError (Option Nat) → Document → Prop
  /-- It could not be made, or not be written. -/
  | failed (e : TrafficError) : call.Moves doc (.error e) doc
  | created {kind : Kind} {item : kind.Item} (asked : call.change = .create kind item)
      (new : ∀ other ∈ doc.items kind, Kind.nameOf other ≠ Kind.nameOf item) :
      call.Moves doc (.ok (some doc.freeId))
        (doc.add (Document.asStored call.now doc.freeId item))
  | deleted {kind : Kind} {id : Nat} (asked : call.change = .delete kind id)
      (there : ∃ item ∈ doc.items kind, Document.doomed id item = true) :
      call.Moves doc (.ok none) (doc.remove kind id)

/-- **A call does one of these.** -/
theorem Call.moves (call : Call) (w : Workspace) :
    call.Moves w.store.document (call.made w) (call.run w).2.store.document := by
  obtain ⟨change, now, disk⟩ := call
  cases change with
  | create kind item =>
    rcases done : (w.onDisk disk).create now item with ⟨e | stored, after⟩
    · simp only [Call.made, Call.run, Change.make, done, Workspace.eq_of_create_error done]
      exact .failed e
    · -- Only a name that is new among those of its kind has been stored.
      obtain ⟨last, created, -, rfl⟩ := Workspace.create_eq_ok_iff.mp done
      obtain ⟨new, -, rfl, -⟩ := Document.create_eq_ok_iff.mp created
      simp only [Call.made, Call.run, Change.make, done, Except.map, Change.madeId?,
        Document.id_asStored]
      exact .created rfl new
  | delete kind id =>
    rcases done : (w.onDisk disk).delete kind id with ⟨e | _, after⟩
    · simp only [Call.made, Call.run, Change.make, done, Workspace.eq_of_delete_error done]
      exact .failed e
    · obtain ⟨last, deleted, -, rfl⟩ := Workspace.delete_eq_ok_iff.mp done
      simp only [Call.made, Call.run, Change.make, done, Except.map, Change.madeId?]
      exact .deleted rfl (Document.delete_eq_ok_iff.mp deleted).1

/-- What every move keeps, a run keeps. -/
theorem after_keeps {P : Document → Prop} {calls : List Call}
    (kept : ∀ call ∈ calls, ∀ doc made next, P doc → call.Moves doc made next → P next)
    (holds : P w.store.document) : P (w.after calls).store.document := by
  -- The rest of the run begins wherever the first call has led to.
  induction calls generalizing w with
  | nil => exact holds
  | cons call calls ih =>
    have first := kept call List.mem_cons_self _ _ _ holds (call.moves w)
    exact ih (fun later member => kept later (List.mem_cons_of_mem call member)) first

/-! ### What a move keeps -/

namespace Call.Moves

theorem counted (moves : call.Moves doc made next) (counted : doc.Counted) : next.Counted := by
  cases moves with
  | failed => exact counted
  | created => exact counted.add (Document.id_asStored _ _ _)
  | deleted => exact counted.remove _ _

theorem nextId_le (moves : call.Moves doc made next) : doc.nextId ≤ next.nextId := by
  cases moves with
  | failed => exact Nat.le_refl _
  | created => exact doc.nextId_le_freeId.trans (Nat.le_succ _)
  | deleted => exact (doc.nextId_remove _ _).ge

/-- An id that is given out lies between the counter before it and the counter after it. -/
theorem id_mem {id : Nat} (moves : call.Moves doc (.ok (some id)) next) :
    doc.nextId ≤ id ∧ id < next.nextId := by
  cases moves with
  | created => exact ⟨doc.nextId_le_freeId, Nat.lt_succ_self _⟩

theorem nodup_names {kind : Kind} (moves : call.Moves doc made next)
    (distinct : ((doc.items kind).map Kind.nameOf).Nodup) :
    ((next.items kind).map Kind.nameOf).Nodup := by
  cases moves with
  | failed => exact distinct
  | created asked new => exact Document.nodup_names_add distinct (by simpa using new)
  | deleted => exact Document.nodup_names_remove distinct _ _

/-- What is created is the user's own, and only what is can be deleted. -/
theorem community (moves : call.Moves doc made next) :
    next.shelf .community = doc.shelf .community := by
  cases moves with
  | failed => rfl
  | created => exact Document.shelf_add_of_ne doc (Document.deletable_asStored _ _ _) (by simp)
  | deleted => exact Document.shelf_remove_of_ne doc _ (by simp)

end Call.Moves

/-! ### The ids of a run -/

theorem nextId_le_after (calls : List Call) :
    w.store.document.nextId ≤ (w.after calls).store.document.nextId :=
  after_keeps (P := fun doc => w.store.document.nextId ≤ doc.nextId)
    (fun _ _ _ _ _ least moves => least.trans moves.nextId_le) (Nat.le_refl _)

/-- The first id of a run is that of the first call, if it has given out one. -/
theorem mem_madeIds_cons {calls : List Call} {id : Nat} :
    id ∈ w.madeIds (call :: calls) ↔
      call.made w = .ok (some id) ∨ id ∈ (call.run w).2.madeIds calls := by
  rw [Workspace.madeIds, List.mem_append]
  refine or_congr_left ?_
  rcases call.made w with _ | _ | _ <;> simp [Except.toOption, eq_comm]

/-- No id of a run is below the counter that the run began with. -/
theorem nextId_le_of_mem_madeIds {calls : List Call} {id : Nat} (member : id ∈ w.madeIds calls) :
    w.store.document.nextId ≤ id := by
  induction calls generalizing w with
  | nil => cases member
  | cons call calls ih =>
    have moves := call.moves w
    rcases mem_madeIds_cons.mp member with first | later
    · rw [first] at moves
      exact moves.id_mem.1
    · exact moves.nextId_le.trans (ih later)

theorem madeIds_increasing (w : Workspace) (calls : List Call) :
    (w.madeIds calls).Pairwise (· < ·) := by
  induction calls generalizing w with
  | nil => exact .nil
  | cons call calls ih =>
    have moves := call.moves w
    rw [Workspace.madeIds]
    rcases made : call.made w with _ | _ | first
    -- A call that fails or deletes gives out no id.
    · exact ih _
    · exact ih _
    · rw [made] at moves
      refine List.pairwise_cons.mpr ⟨fun later isLater => ?_, ih _⟩
      -- The counter after the first call is above its id, and no id that comes later is below it.
      exact moves.id_mem.2.trans_le (nextId_le_of_mem_madeIds isLater)

theorem Begun.counted {store : Store} (begun : Begun store) : store.document.Counted := by
  cases begun with
  | empty => exact Document.orderly_empty.counted
  | seeded => exact Document.orderly_seed.counted
  | loaded loaded => exact (Document.settled_iff.mp (load_spec loaded).2.2).2
  | opened opened => exact (Document.settled_iff.mp (openAt_spec opened).2.2).2

/-- **The laws of a run**, whatever is created and deleted and whether or not it succeeds: every id
that is stored is below the counter; the counter never falls; the ids given out rise from call to
call and are above all that were there at the beginning; names stay distinct among those of a kind;
and the community platforms stay what they are. -/
theorem run_invariant {store : Store} (begun : Begun store) (disk : Disk) (calls : List Call) :
    let start : Workspace := { disk, store }
    let after := start.after calls
    (∀ kind, ∀ item ∈ after.store.document.items kind,
      Kind.id item < after.store.document.nextId) ∧
    (∀ more, after.store.document.nextId ≤ (start.after (calls ++ more)).store.document.nextId) ∧
    (∀ old ∈ store.document.ids, ∀ id ∈ start.madeIds calls, old < id) ∧
    (start.madeIds calls).Pairwise (· < ·) ∧
    (∀ kind, ((store.document.items kind).map Kind.nameOf).Nodup →
      ((after.store.document.items kind).map Kind.nameOf).Nodup) ∧
    after.store.document.shelf .community = store.document.shelf .community := by
  intro start after
  refine ⟨?_, ?_, ?_, madeIds_increasing start calls, ?_, ?_⟩
  · exact after_keeps (fun _ _ _ _ _ counted moves => moves.counted counted) begun.counted
  · intro more
    rw [Workspace.after_append]
    exact nextId_le_after more
  · intro old isOld id isNew
    obtain ⟨kind, item, there, rfl⟩ := Document.mem_ids_iff.mp isOld
    exact (begun.counted kind item there).trans_le (nextId_le_of_mem_madeIds isNew)
  · intro kind distinct
    exact after_keeps (P := fun doc => ((doc.items kind).map Kind.nameOf).Nodup)
      (fun _ _ _ _ _ distinct moves => moves.nodup_names distinct) distinct
  · exact after_keeps (P := fun doc => doc.shelf .community = store.document.shelf .community)
      (fun _ _ _ _ _ same moves => moves.community.trans same) rfl

/-- A state file without a counter, in which one zone is numbered. -/
def uncounted : Disk where
  files := [(Path.ofText "state.json",
    .text "\x7b\"zones\": [\x7b\"id\": 7, \"domainName\": \"a.example\"\x7d]\x7d")]

/-- Makes a zone, fails to make it again, deletes it, and makes an application. -/
def mixedCalls : List Call :=
  [.create .zone { id := 0, domainName := "b.example" },
    .create .zone { id := 0, domainName := "b.example" },
    .delete .zone 8,
    .create .application { id := 0, name := "shop", type := .failover, enabled := true }].map
    fun change => { change, now := default, disk := uncounted }

theorem run_invariant_uncounted :
    ∃ store, load uncounted "state.json" = .ok store ∧
      ({ disk := uncounted, store } : Workspace).madeIds mixedCalls = [8, 9] ∧
      ([8, 9] : List Nat).Pairwise (· < ·) ∧ ∀ old ∈ store.document.ids, old < 8 := by
  -- The counter that the file lacks begins above its zone, and is not set back when 8 is deleted.
  obtain ⟨store, loaded, made⟩ : ∃ store, load uncounted "state.json" = .ok store ∧
      ({ disk := uncounted, store } : Workspace).madeIds mixedCalls = [8, 9] :=
    ⟨_, rfl, by decide +kernel⟩
  obtain ⟨-, -, above, rising, -, -⟩ := run_invariant (.loaded loaded) uncounted mixedCalls
  rw [made] at above rising
  exact ⟨store, loaded, made, rising, fun old there => above old there 8 (by decide)⟩

end Store

end Steering
