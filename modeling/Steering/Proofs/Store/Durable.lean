import Steering.Proofs.Store.Run

/-!
# Every change is in the file

A store that is bound to a file writes every change through. After a call that has succeeded the
file holds the text of the document, and loading it gives the store back; a call that has failed has
left both as they were (`call_durable`).

Loading raises a counter that is not above every id. That this changes nothing is the invariant of
the whole run: whatever a store begins with, after its first change its document is settled
(`Call.Moves.settled`).
-/

namespace Steering.Store

open Traffic

variable {w after : Workspace} {doc next : Document} {call : Call} {path : String}
variable {made : Except TrafficError (Option Nat)}

/-- What the call makes fits a state file, whichever id it gets. -/
def Call.Fits (call : Call) : Prop :=
  match call.change with
  | .create _ item => ∀ id < 2 ^ 64, Kind.Fits (Document.asStored call.now id item)
  | .delete _ _ => True

namespace Call

/-! ### What a call writes -/

/-- A call that fails changes neither the store nor the disk. -/
theorem eq_of_error {e : TrafficError} (failed : call.run w = (.error e, after)) :
    after = w.onDisk call.disk := by
  obtain ⟨change, now, disk⟩ := call
  cases change with
  | create => exact Workspace.eq_of_create_error failed
  | delete => exact Workspace.eq_of_delete_error failed

/-- A call that succeeds has written the store as it then is. -/
theorem saved {answer : call.change.Answer} (done : call.run w = (.ok answer, after)) :
    after.store.save call.disk = .ok after.disk ∧ after.store.path = w.store.path := by
  obtain ⟨change, now, disk⟩ := call
  cases change with
  | create =>
    obtain ⟨written, -, saved, rfl⟩ := Workspace.create_eq_ok_iff.mp done
    exact ⟨saved, rfl⟩
  | delete =>
    obtain ⟨written, -, saved, rfl⟩ := Workspace.delete_eq_ok_iff.mp done
    exact ⟨saved, rfl⟩

theorem path_run (call : Call) (w : Workspace) : (call.run w).2.store.path = w.store.path := by
  rcases done : call.run w with ⟨e | answer, after⟩
  · rw [eq_of_error done]
    rfl
  · exact (saved done).2

/-! ### What a call keeps of the document -/

namespace Moves

/-- A document has been settled as soon as anything in it has changed. -/
theorem settled {id : Option Nat} (moves : call.Moves doc (.ok id) next) (counted : doc.Counted) :
    next.Settled := by
  refine Document.settled_iff.mpr ⟨?_, moves.counted counted⟩
  cases moves with
  | created => exact Nat.succ_pos _
  | deleted asked there =>
    -- The counter is above the id of what was deleted, and deleting does not lower it.
    obtain ⟨item, listed, -⟩ := there
    rw [Document.nextId_remove]
    exact (Nat.zero_le _).trans_lt (counted _ item listed)

/-- A document fits as long as its counter does. -/
theorem fits (moves : call.Moves doc made next) (fit : call.Fits)
    (fits : doc.nextId < 2 ^ 64 → doc.Fits) (counter : next.nextId < 2 ^ 64) : next.Fits := by
  -- Counters do not fall, so the counter before the call is small enough if the one after it is.
  have old := fits (moves.nextId_le.trans_lt counter)
  cases moves with
  | failed => exact old
  | created asked new =>
    rw [Call.Fits, asked] at fit
    exact old.add (fit _ (Nat.lt_of_succ_lt counter))
  | deleted => exact old.remove _ _

end Moves

end Call

theorem Begun.fits {store : Store} (begun : Begun store) : store.document.Fits := by
  cases begun with
  | empty =>
    intro kind item there
    cases kind <;> exact absurd there List.not_mem_nil
  | seeded => exact fits_seed
  | loaded loaded => exact (load_spec loaded).2.1
  | opened opened => exact (openAt_spec opened).2.1

theorem path_after (calls : List Call) : (w.after calls).store.path = w.store.path := by
  induction calls generalizing w with
  | nil => rfl
  | cons call calls ih => exact ih.trans (call.path_run w)

theorem fits_after {calls : List Call} (fit : ∀ call ∈ calls, call.Fits)
    (fits : w.store.document.Fits) (counter : (w.after calls).store.document.nextId < 2 ^ 64) :
    (w.after calls).store.document.Fits :=
  after_keeps (P := fun doc => doc.nextId < 2 ^ 64 → doc.Fits)
    (fun call listed _ _ _ fits moves => moves.fits (fit call listed) fits) (fun _ => fits) counter

/-- **Every change is in the file.** In a run of a store that is bound to a file, whatever happens
to the file between the calls: after a call that succeeds the file holds the text of the document,
and loading it gives the store, its counter included; after a call that fails the store and the disk
are what the call has found. -/
theorem call_durable {store : Store} (begun : Begun store) (bound : store.path = some path)
    (disk : Disk) {calls : List Call} (fit : ∀ call ∈ calls, call.Fits) (last : call.Fits) :
    let before := ({ disk, store } : Workspace).after calls
    (∀ answer after, call.run before = (.ok answer, after) →
      after.disk.read path = .ok (.text after.store.document.toText) ∧
      (after.store.document.nextId < 2 ^ 64 → load after.disk path = .ok after.store)) ∧
    ∀ e after, call.run before = (.error e, after) → after = before.onDisk call.disk := by
  intro before
  refine ⟨fun answer after done => ?_, fun e after failed => Call.eq_of_error failed⟩
  obtain ⟨saved, samePath⟩ := Call.saved done
  have isBound : after.store.path = some path :=
    samePath.trans ((path_after calls).trans bound)
  refine ⟨read_of_save isBound saved, fun counter => ?_⟩
  have counted : before.store.document.Counted :=
    after_keeps (fun _ _ _ _ _ counted moves => moves.counted counted) begun.counted
  -- The document is settled, so loading the file does not raise the counter.
  have moves := call.moves before
  simp only [Call.made, done, Except.map] at moves
  exact load_of_save isBound (moves.fits last (fits_after fit begun.fits) counter)
    (moves.settled counted) counter saved

/-- Makes a zone. -/
def zoneCall (disk : Disk) : Call where
  change := .create .zone { id := 0, domainName := "a.example" }
  now := default
  disk := disk

/-- A store with nothing in it, bound to a file that is not there. -/
def blank : Workspace where
  store := { inMemory with path := some "state.json" }

/-- A zone that has been made is there when the file is loaded, and is not made again. -/
theorem call_durable_zone :
    ∃ after, (zoneCall {}).run blank = (.ok { id := 1, domainName := "a.example" }, after) ∧
      load after.disk "state.json" = .ok after.store ∧
      (zoneCall after.disk).run after = (.error (.duplicate .zone "a.example"), after) := by
  have fit (disk : Disk) : (zoneCall disk).Fits := fun id bound => bound
  obtain ⟨after, done, counter, again⟩ :
      ∃ after, (zoneCall {}).run blank = (.ok { id := 1, domainName := "a.example" }, after) ∧
        after.store.document.nextId < 2 ^ 64 ∧
        ((zoneCall after.disk).run after).1 = .error (.duplicate .zone "a.example") :=
    ⟨_, rfl, by decide +kernel, rfl⟩
  obtain ⟨kept, -⟩ := call_durable (.empty (some "state.json")) rfl {} (List.forall_mem_nil _)
    (fit {})
  obtain ⟨-, unchanged⟩ := call_durable (.empty (some "state.json")) rfl {}
    (List.forall_mem_singleton.mpr (fit {})) (fit after.disk)
  -- The second call is the last one of a run in which the first has come before.
  have between : blank.after [zoneCall {}] = after := by
    rw [Workspace.after, List.foldl_cons, done, List.foldl_nil]
  change ∀ e last, (zoneCall after.disk).run (blank.after [zoneCall {}]) = (.error e, last) →
    last = (blank.after [zoneCall {}]).onDisk after.disk at unchanged
  rw [between] at unchanged
  exact ⟨after, done, (kept _ after done).2 counter,
    Prod.ext again (unchanged _ _ (Prod.ext again rfl))⟩

end Steering.Store
