import Steering.Pattern.Engine
import Steering.Proofs.Shell.Effect
import Steering.Proofs.Store.Reopen

/-!
# Restarts

Lines that are carried out one after the other in one shell, and lines that are each carried out in
a shell of their own over the state file, do the same. A shell differs from a new one in what it has
cached, which no line sees, and in the store that it keeps, which is the one in the state file
(`Workspace.Saved`). So the run below goes line by line: the replies are the same, the disks are the
same, and the store is still the one in the file.
-/

namespace Steering.Shell

open Store Traffic

/-! ### What a line keeps -/

section Line

variable {α : Type} {now : Instant} {w after : Workspace} {path : String}

/-- A resource that is made for a store fits the store's file. -/
theorem WellMade.fits {doc : Document} {kind : Kind} {item : kind.Item}
    (wellMade : WellMade doc item) (fits : doc.Fits) (valid : now.isValid = true) {id : Nat}
    (bound : id < 2 ^ 64) : Kind.Fits (Document.asStored now id item) := by
  have madeFor := wellMade.madeFor
  cases kind with
  | platform =>
    obtain ⟨⟨region, listed, -, archetype⟩, checks⟩ := madeFor
    have known : Platform.Fits region := fits .platform region (List.mem_filter.mp listed).1
    refine ⟨bound, fun id named => ?_, checks, ?_, ?_⟩
    · cases archetype.symm.trans named
      exact known.id
    · rintro _ ⟨⟩
      exact valid
    · rintro _ ⟨⟩
      exact valid
  | alert =>
    obtain ⟨⟨platform, listed, same⟩, seconds⟩ := madeFor
    have known : Platform.Fits platform := fits .platform platform (List.mem_filter.mp listed).1
    exact ⟨bound, same ▸ known.id, seconds⟩
  | application =>
    obtain ⟨targets, threshold⟩ := madeFor
    refine ⟨bound, threshold, fun target there => ?_⟩
    obtain ⟨platform, listed, same⟩ := targets target there
    have known : Platform.Fits platform := fits .platform platform listed
    exact same ▸ known.id
  | zone => exact bound

theorem Did.nextId_le {result : Except ShellError α} (did : Did now w result after) :
    w.store.document.nextId ≤ after.store.document.nextId := by
  cases did with
  | nothing => exact Nat.le_refl _
  | planned =>
    refine Plan.carryOut_keeps (P := fun v => w.store.document.nextId ≤ v.store.document.nextId) _
      ?_ ?_ (Nat.le_refl _)
    · exact fun made _ v least => least.trans Workspace.nextId_le_create
    · exact fun v kind id least => least.trans Workspace.nextId_le_delete

/-- What the store has after a line is what its file has. -/
theorem Did.saved {result : Except ShellError α} (did : Did now w result after)
    (valid : now.isValid = true) (saved : w.Saved path) : after.Saved path := by
  intro counter
  -- What the file held before the line fits it, and so do the ids that the new resource refers to.
  obtain ⟨-, fits, -⟩ := openAt_spec (saved (did.nextId_le.trans_lt counter))
  cases did with
  | nothing => exact saved counter
  | planned _ wellMade =>
    refine Plan.carryOut_keeps (P := Workspace.Saved path) _ ?_ ?_ saved counter
    · exact fun made isMade v saved =>
        saved.create fun id bound => (wellMade made isMade).fits fits valid bound
    · exact fun v kind id saved => saved.delete id

end Line

/-! ### Runs -/

section Runs

variable [FilterEngine]

/-- Carries out lines, each at its time, and gives their replies, each with the disk after it. -/
def session (shell : Shell) : List (Instant × String) → List (Reply × Disk)
  | [] => []
  | (now, line) :: lines =>
    let (reply, shell) := shell.execute now line
    (reply, shell.catalog.backend.disk) :: shell.session lines

/-- The shell after some lines. -/
def after (shell : Shell) : List (Instant × String) → Shell
  | [] => shell
  | (now, line) :: lines => (shell.execute now line).2.after lines

/-- Carries out lines as `session` does, but each in a new shell over the state file. -/
def oneShots (path : String) (width : Nat) (disk : Disk) :
    List (Instant × String) → Except TrafficError (List (Reply × Disk))
  | [] => pure []
  | (now, line) :: lines => do
    let store ← openAt disk path
    let (reply, shell) := (Shell.new { disk, store } width).execute now line
    let disk := shell.catalog.backend.disk
    let rest ← oneShots path width disk lines
    pure ((reply, disk) :: rest)

variable {shell : Shell} {now : Instant} {path : String} {lines : List (Instant × String)}

theorem nextId_le_after (coherent : shell.catalog.Coherent) (lines : List (Instant × String)) :
    shell.document.nextId ≤ (shell.after lines).document.nextId := by
  induction lines generalizing shell with
  | nil => exact Nat.le_refl _
  | cons timed lines ih =>
    obtain ⟨did, coherent⟩ := execute_did coherent timed.1 timed.2
    exact did.nextId_le.trans (ih coherent)

theorem tableWidth_execute (line : String) :
    (shell.execute now line).2.tableWidth = shell.tableWidth := by
  unfold execute
  split <;> rfl

/-- Over a store that is the one in the file, one shell and many do the same. -/
theorem oneShots_eq_session_of_saved (coherent : shell.catalog.Coherent)
    (saved : shell.catalog.backend.Saved path) (clock : ∀ timed ∈ lines, timed.1.isValid = true)
    (counter : (shell.after lines).document.nextId < 2 ^ 64) :
    oneShots path shell.tableWidth shell.catalog.backend.disk lines =
      .ok (shell.session lines) := by
  induction lines generalizing shell with
  | nil => rfl
  | cons timed lines ih =>
    obtain ⟨now, line⟩ := timed
    obtain ⟨valid, clock⟩ := List.forall_mem_cons.mp clock
    -- The counter only grows, so it fits the file at every line if it does at the end.
    have opened : openAt shell.catalog.backend.disk path = .ok shell.catalog.backend.store :=
      saved ((nextId_le_after coherent _).trans_lt counter)
    have nothingCached : (Shell.new shell.catalog.backend shell.tableWidth).catalog.Coherent :=
      Catalog.coherent_new _
    obtain ⟨reply, backend⟩ := execute_congr nothingCached coherent rfl rfl now line
    obtain ⟨did, coherent⟩ := execute_did coherent now line
    have rest := ih coherent (did.saved valid saved) clock counter
    rw [tableWidth_execute, ← backend] at rest
    rw [oneShots, opened]
    dsimp only [bind, Except.bind]
    rw [rest, reply, backend]
    rfl

/-- **Restarts do not show**: over a state file that can be opened, lines that are carried out in
one shell and lines that are each carried out in a new one have the same replies, and leave the same
on the disk after each line, as long as the counter of the ids fits the file. -/
theorem oneShots_eq_session {disk : Disk} {store : Store} (opened : openAt disk path = .ok store)
    (width : Nat) (clock : ∀ timed ∈ lines, timed.1.isValid = true)
    (counter : ((Shell.new { disk, store } width).after lines).document.nextId < 2 ^ 64) :
    oneShots path width disk lines = .ok ((Shell.new { disk, store } width).session lines) := by
  have nothingCached : (Shell.new { disk, store } width).catalog.Coherent := Catalog.coherent_new _
  exact oneShots_eq_session_of_saved nothingCached (fun _ => opened) clock counter

end Runs

/-- A line that fills a cache, one that makes the first resource, and one that deletes it. -/
def firstLines : List (Instant × String) :=
  let newYear : Instant :=
    { year := 2024, month := 1, day := 1, hour := 0, minute := 0, second := 0, nanosecond := 0 }
  [(newYear, "list zone"), (newYear, "create zone example.com"),
    (newYear, "delete zone -filter exam")]

theorem oneShots_eq_session_firstLines :
    ((Shell.new { store := { seeded with path := some "state.json" } } 80).after
        firstLines).document.nextId = 12 ∧
      oneShots "state.json" 80 {} firstLines = .ok ((Shell.new
        { store := { seeded with path := some "state.json" } } 80).session firstLines) := by
  have opened : openAt {} "state.json" = .ok { seeded with path := some "state.json" } := rfl
  have clock : ∀ timed ∈ firstLines, timed.1.isValid = true := by decide
  have counter : ((Shell.new { store := { seeded with path := some "state.json" } } 80).after
      firstLines).document.nextId = 12 := by decide +kernel
  exact ⟨counter, oneShots_eq_session opened 80 clock (counter.trans_lt (by decide))⟩

end Steering.Shell
