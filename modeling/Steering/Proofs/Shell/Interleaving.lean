import Steering.Proofs.Shell.Restart
import Steering.Proofs.Shell.Tab

/-!
# Completion cannot be seen

While a line is typed it is completed again and again, in the shell that will carry it out, and each
time caches are filled that the lines use too. No line sees that, and no completion sees what has
been cached: leave out all completions, and the lines reply the same and leave the same store; put
one in anywhere, and it offers what a new shell over the document would (`completion_unobservable`).

The two runs, with the completions and without, are compared call by call. What stays the same in
both is all but the caches, and of these that they are true (`Alike`).
-/

namespace Steering.Shell

open Store Traffic

/-! ### Calls of a shell -/

/-- What a shell is used for, each time at the time of the clock then. -/
inductive Use where
  | execute (now : Instant) (line : String)
  | complete (now : Instant) (line : String)

def Use.isExecute : Use → Bool
  | .execute _ _ => true
  | .complete _ _ => false

/-- What has come of a use. -/
inductive Answer where
  | replied (reply : Reply)
  | offered (suggestions : List Suggestion)

def Answer.isReply : Answer → Bool
  | .replied _ => true
  | .offered _ => false

def use [FilterEngine] (shell : Shell) : Use → Answer × Shell
  | .execute now line =>
    let (reply, shell) := shell.execute now line
    (.replied reply, shell)
  | .complete now line =>
    let (suggestions, shell) := shell.complete now line
    (.offered suggestions, shell)

/-- The answers of a shell that is used again and again. -/
def trace [FilterEngine] (shell : Shell) : List Use → List Answer
  | [] => []
  | u :: uses => (shell.use u).1 :: (shell.use u).2.trace uses

/-- The shell that has been used so. -/
def used [FilterEngine] (shell : Shell) (uses : List Use) : Shell :=
  uses.foldl (fun shell u => (shell.use u).2) shell

/-! ### Shells that differ in their caches -/

/-- The shells differ at most in what they have cached, and what they have cached is true. -/
structure Alike (one other : Shell) : Prop where
  coherent : one.catalog.Coherent
  otherCoherent : other.catalog.Coherent
  backend : one.catalog.backend = other.catalog.backend
  width : one.tableWidth = other.tableWidth

variable {one other : Shell}

theorem alike_new (w : Workspace) (width : Nat) : Alike (.new w width) (.new w width) :=
  ⟨Catalog.coherent_new w, Catalog.coherent_new w, rfl, rfl⟩

theorem tableWidth_complete (shell : Shell) (now : Instant) (line : String) :
    (shell.complete now line).2.tableWidth = shell.tableWidth := by
  unfold complete
  split <;> rfl

/-- A line that is carried out in both replies the same. -/
theorem Alike.execute [FilterEngine] (alike : Alike one other) (now : Instant) (line : String) :
    (one.execute now line).1 = (other.execute now line).1 ∧
      Alike (one.execute now line).2 (other.execute now line).2 := by
  obtain ⟨coherent, otherCoherent, backend, width⟩ := alike
  obtain ⟨reply, sameBackend⟩ := execute_congr coherent otherCoherent backend width now line
  refine ⟨reply, (execute_did coherent now line).2, (execute_did otherCoherent now line).2,
    sameBackend, ?_⟩
  rw [tableWidth_execute, tableWidth_execute, width]

/-- A line that is completed in only one of them makes no difference. -/
theorem Alike.complete (alike : Alike one other) (now : Instant) (line : String) :
    Alike (one.complete now line).2 other := by
  obtain ⟨-, backend, coherent⟩ := complete_spec alike.coherent now line
  exact ⟨coherent, alike.otherCoherent, backend.trans alike.backend,
    (tableWidth_complete one now line).trans alike.width⟩

/-- What is offered depends on the document only. -/
theorem complete_congr (coherent : one.catalog.Coherent) (otherCoherent : other.catalog.Coherent)
    (document : one.document = other.document) (now later : Instant) (line : String) :
    (one.complete now line).1 = (other.complete later line).1 := by
  rw [(complete_spec coherent now line).1, (complete_spec otherCoherent later line).1, document]

/-- The run with completions and the run without them, call by call. -/
theorem Alike.trace [FilterEngine] (alike : Alike one other) (uses : List Use) :
    (one.trace uses).filter Answer.isReply = other.trace (uses.filter Use.isExecute) ∧
      Alike (one.used uses) (other.used (uses.filter Use.isExecute)) := by
  induction uses generalizing one other with
  | nil => exact ⟨rfl, alike⟩
  | cons u uses ih =>
    -- A line is carried out in both runs; a completion is left out of the second.
    cases u with
    | execute now line =>
      obtain ⟨reply, still⟩ := alike.execute now line
      obtain ⟨answers, last⟩ := ih still
      refine ⟨?_, last⟩
      change Answer.replied (one.execute now line).1 ::
          ((one.execute now line).2.trace uses).filter Answer.isReply =
        Answer.replied (other.execute now line).1 ::
          (other.execute now line).2.trace (uses.filter Use.isExecute)
      rw [reply, answers]
    | complete now line => exact ih (alike.complete now line)

/-- **Completion cannot be seen**: however a shell is used, over any store, its lines reply what
they would without the completions between them, the store is left the same, and whatever is
completed next offers what a new shell over a copy of the document would offer. -/
theorem completion_unobservable [FilterEngine] (w : Workspace) (width : Nat) (uses : List Use) :
    let shell := Shell.new w width
    let lines := uses.filter Use.isExecute
    (shell.trace uses).filter Answer.isReply = shell.trace lines ∧
      (shell.used uses).catalog.backend = (shell.used lines).catalog.backend ∧
      ∀ now line copied disk path otherWidth,
        ((shell.used uses).complete now line).1 =
          ((Shell.new { disk, store := { path, document := (shell.used uses).document } }
            otherWidth).complete copied line).1 := by
  intro shell lines
  obtain ⟨answers, alike⟩ := (alike_new w width).trace uses
  refine ⟨answers, alike.backend, fun now line copied disk path otherWidth => ?_⟩
  have anew : (Shell.new { disk, store := { path, document := (shell.used uses).document } }
      otherWidth).catalog.Coherent := Catalog.coherent_new _
  exact complete_congr alike.coherent anew rfl now copied line

end Steering.Shell
