import Steering.Pattern.Engine
import Steering.Proofs.Shell.Effect

/-!
# A line that fails changes nothing

The store that a shell begins with is orderly, and lines keep it so; the catalog stays coherent.
A line that fails has carried out no plan, or one that failed, and a plan that fails on an orderly
store changes nothing. So `execute_error_unchanged` holds of every line, though a line may write the
file many times.
-/

namespace Steering.Shell

open Store Traffic

/-- The shell on another disk. -/
def onDisk (shell : Shell) (disk : Disk) : Shell :=
  { shell with catalog := { shell.catalog with backend := shell.catalog.backend.onDisk disk } }

variable {shell : Shell} {now : Instant}

theorem Did.orderly {α : Type} {w after : Workspace} {result : Except ShellError α}
    (did : Did now w result after) (orderly : w.store.document.Orderly) :
    after.store.document.Orderly := by
  cases did with
  | nothing => exact orderly
  | planned => exact Plan.orderly_carryOut _ orderly

/-- What holds of every resource before a line holds of every one after it if it holds of what is
made for the document. The id that a new resource gets was free. -/
theorem Did.forall_items {α : Type} {w after : Workspace} {result : Except ShellError α}
    {P : {kind : Kind} → kind.Item → Prop} (did : Did now w result after)
    (new : ∀ {kind : Kind} (item : kind.Item) (id : Nat), WellMade w.store.document item →
      w.store.document.nextId ≤ id → P (Document.asStored now id item))
    (holds : ∀ kind, ∀ item ∈ w.store.document.items kind, P item) :
    ∀ kind, ∀ item ∈ after.store.document.items kind, P item := by
  cases did with
  | nothing => exact holds
  | @planned plan _ wellMade =>
    -- The counter does not go down on the way, so that the new id was free at the beginning too.
    refine (plan.carryOut_keeps (P := fun v =>
      w.store.document.nextId ≤ v.store.document.nextId ∧
        ∀ kind, ∀ item ∈ v.store.document.items kind, P item) ?_ ?_ ⟨Nat.le_refl _, holds⟩).2
    · rintro made isMade v ⟨least, each⟩
      have isNew : P (Document.asStored now v.store.document.freeId made.2) :=
        new made.2 _ (wellMade made isMade) (least.trans v.store.document.nextId_le_freeId)
      exact ⟨least.trans Workspace.nextId_le_create, Workspace.create_keeps
        (P := fun doc => ∀ kind, ∀ item ∈ doc.items kind, P item) each
        fun _ => Document.forall_items_add each isNew⟩
    · rintro v kind id ⟨least, each⟩
      exact ⟨least.trans Workspace.nextId_le_delete, Workspace.delete_keeps
        (P := fun doc => ∀ kind, ∀ item ∈ doc.items kind, P item) each
        (Document.forall_items_remove each kind id)⟩

section Lines

variable [FilterEngine]

/-- The shells over a store that began with the community platforms, or with nothing, and has been
changed by lines only. Files may change between lines. -/
inductive Reachable : Shell → Prop
  | seeded (disk : Disk) (path : Option String) (width : Nat) :
    Reachable (.new { disk, store := { seeded with path } } width)
  | empty (disk : Disk) (path : Option String) (width : Nat) :
    Reachable (.new { disk, store := { inMemory with path } } width)
  | line {shell : Shell} (reachable : Reachable shell) (now : Instant) (line : String) :
    Reachable (shell.execute now line).2
  | files {shell : Shell} (reachable : Reachable shell) (disk : Disk) :
    Reachable (shell.onDisk disk)

/-- What holds of every reachable shell. -/
theorem Reachable.sound (reachable : Reachable shell) :
    shell.catalog.Coherent ∧ shell.document.Orderly := by
  induction reachable with
  | seeded => exact ⟨Catalog.coherent_new _, Document.orderly_seed⟩
  | empty => exact ⟨Catalog.coherent_new _, Document.orderly_empty⟩
  | line _ now line ih =>
    obtain ⟨did, coherent⟩ := execute_did ih.1 now line
    exact ⟨coherent, did.orderly ih.2⟩
  | files _ disk ih => exact ⟨ih.1.of_document rfl, ih.2⟩

/-- **A line that fails changes nothing**: neither the store nor any file, if whether the file of
the store can be opened does not change during the line. -/
theorem execute_error_unchanged (reachable : Reachable shell)
    (steady : shell.catalog.backend.Steady) {line : String} {e : ShellError}
    (failed : (shell.execute now line).1.result = .error e) :
    (shell.execute now line).2.catalog.backend = shell.catalog.backend := by
  obtain ⟨coherent, orderly⟩ := reachable.sound
  obtain ⟨did, -⟩ := execute_did coherent now line
  rw [failed] at did
  generalize (shell.execute now line).2.catalog.backend = after at did
  cases did with
  | nothing => rfl
  | planned fits _ same =>
    generalize ran : (Plan.carryOut now _).run shell.catalog.backend = done at same
    rcases done with ⟨_ | _, after⟩
    · exact Plan.eq_of_carryOut_error orderly steady fits ran
    · cases same

end Lines

/-- A shell whose state file cannot be opened for writing. -/
def locked : Shell :=
  let path := Path.ofText "state.json"
  .new {
    disk := { files := [(path, .text "{}")], readOnly := [path] }
    store := { seeded with path := some "state.json" } } 80

theorem execute_error_unchanged_locked :
    (locked.execute default "create zone example.com").1.result =
        .error (.traffic (.io .permissionDenied)) ∧
      (locked.execute default "create zone example.com").2.catalog.backend =
        locked.catalog.backend := by
  have failed : (locked.execute default "create zone example.com").1.result =
      .error (.traffic (.io .permissionDenied)) := by decide +kernel
  have steady : locked.catalog.backend.Steady := by
    rintro path ⟨⟩ -
    decide +kernel
  exact ⟨failed, execute_error_unchanged (.seeded _ _ 80) steady failed⟩

end Steering.Shell
