import Steering.Proofs.Store.Plan
import Steering.Shell.Create

/-!
# Reasoning about the console

What a part of a command line does on a coherent catalog depends on the workspace and on what has
been written, not on what is cached. `Ends` says so of a part, together with what it may leave
behind. Its rules follow the ways in which parts are put together, so that a command is gone
through once, from its beginning to its end.
-/

namespace Steering.Shell

open Store Traffic

variable {α β : Type}

theorem run_onCatalog (operation : CatalogM Workspace α) (console : Console) :
    (onCatalog operation).run console = ((operation.run console.catalog).1.mapError .traffic,
      { console with catalog := (operation.run console.catalog).2 }) := rfl

theorem run_sayLine (text : String) (console : Console) : (sayLine text).run console =
    (.ok (), { console with output := console.output ++ (text ++ "\n") }) := rfl

theorem onCatalog_bind (first : CatalogM Workspace α) (next : α → CatalogM Workspace β) :
    onCatalog (first >>= next) = onCatalog first >>= fun a => onCatalog (next a) := by
  refine ExceptT.ext (funext fun console => ?_)
  rw [run_onCatalog, run_bind, run_bind, run_onCatalog]
  rcases first.run console.catalog with ⟨_ | _, _⟩ <;> rfl

theorem run_readFile (path : String) (console : Console) : (readFile path).run console =
    ((console.catalog.backend.disk.readText path).mapError .io, console) := by
  unfold readFile
  simp only [run_bind, run_get]
  cases console.catalog.backend.disk.readText path <;> rfl

/-! ### What a part of a line does -/

/-- On all coherent consoles over the workspace that have written the same, the program does the
same: it ends with one result, one workspace and one text written, whatever is cached, the result
and the workspace satisfy the condition, and the console is still coherent. -/
def Ends (program : ConsoleM α) (w : Workspace)
    (Post : Except ShellError α → Workspace → Prop) : Prop :=
  ∀ output, ∃ result after written, Post result after ∧
    ∀ console : Console, console.catalog.backend = w → console.output = output →
      console.catalog.Coherent →
      (program.run console).1 = result ∧ (program.run console).2.catalog.backend = after ∧
        (program.run console).2.output = written ∧ (program.run console).2.catalog.Coherent

namespace Ends

variable {w : Workspace} {Post : Except ShellError α → Workspace → Prop}
variable {operation : CatalogM Workspace β} {direct : ExceptT TrafficError (StateM Workspace) β}

theorem mono {program : ConsoleM α} {Weaker : Except ShellError α → Workspace → Prop}
    (ends : Ends program w Post)
    (weaker : ∀ result after, Post result after → Weaker result after) :
    Ends program w Weaker := by
  intro output
  obtain ⟨result, after, written, holds, runs⟩ := ends output
  exact ⟨result, after, written, weaker _ _ holds, runs⟩

theorem pure {a : α} (holds : Post (.ok a) w) : Ends (Pure.pure a) w Post :=
  fun output => ⟨.ok a, w, output, holds, fun _ same written coherent =>
    ⟨rfl, same, written, coherent⟩⟩

theorem throw {e : ShellError} (holds : Post (.error e) w) : Ends (MonadExcept.throw e) w Post :=
  fun output => ⟨.error e, w, output, holds, fun _ same written coherent =>
    ⟨rfl, same, written, coherent⟩⟩

theorem say {Post : Except ShellError Unit → Workspace → Prop} {text : String}
    (holds : Post (.ok ()) w) : Ends (Shell.say text) w Post :=
  fun output => ⟨.ok (), w, output ++ text, holds, fun _ same written coherent =>
    ⟨rfl, same, congrArg (· ++ text) written, coherent⟩⟩

theorem check {result : Except ShellError α} (holds : Post result w) :
    Ends (Shell.check result) w Post :=
  fun output => ⟨result, w, output, holds, fun _ same written coherent =>
    ⟨rfl, same, written, coherent⟩⟩

theorem bind {first : ConsoleM β} {next : β → ConsoleM α}
    (begins : Ends first w fun result w =>
      match result with
      | .ok b => Ends (next b) w Post
      | .error e => Post (.error e) w) : Ends (first >>= next) w Post := by
  intro output
  obtain ⟨result, between, written, holds, runs⟩ := begins output
  cases result with
  | error e =>
    refine ⟨.error e, between, written, holds, fun console same out coherent => ?_⟩
    have ran := runs console same out coherent
    rw [run_bind]
    revert ran
    rcases first.run console with ⟨_ | _, last⟩ <;> rintro ⟨⟨⟩, rest⟩
    exact ⟨rfl, rest⟩
  | ok b =>
    -- The first part ends alike on all these consoles, so the second begins alike on them.
    obtain ⟨result, after, written, holds, goesOn⟩ := holds written
    refine ⟨result, after, written, holds, fun console same out coherent => ?_⟩
    have ran := runs console same out coherent
    rw [run_bind]
    revert ran
    rcases first.run console with ⟨_ | _, last⟩ <;> rintro ⟨⟨⟩, same, out, coherent⟩
    exact goesOn last same out coherent

/-- A value that needs nothing of the console. -/
theorem bind_check {result : Except ShellError β} {next : β → ConsoleM α}
    (failed : ∀ e, Post (.error e) w) (goesOn : ∀ b, result = .ok b → Ends (next b) w Post) :
    Ends (Shell.check result >>= next) w Post := by
  refine bind (check ?_)
  cases result with
  | ok b => exact goesOn b rfl
  | error e => exact failed e

theorem readFile {Post : Except ShellError String → Workspace → Prop} {path : String}
    (holds : ∀ result, Post result w) : Ends (Shell.readFile path) w Post := by
  refine fun output => ⟨_, w, output, holds ((w.disk.readText path).mapError .io), ?_⟩
  rintro console rfl written coherent
  rw [run_readFile]
  exact ⟨rfl, rfl, written, coherent⟩

theorem map {f : β → α} {program : ConsoleM β}
    (ends : Ends program w fun result after => Post (result.map f) after) :
    Ends (f <$> program) w Post := by
  intro output
  obtain ⟨result, after, written, holds, runs⟩ := ends output
  refine ⟨result.map f, after, written, holds, fun console same out coherent => ?_⟩
  obtain ⟨rfl, rest⟩ := runs console same out coherent
  rw [run_map]
  exact ⟨rfl, rest⟩

theorem onCatalog {Post : Except ShellError β → Workspace → Prop}
    (implements : Implements operation direct)
    (holds : Post ((direct.run w).1.mapError .traffic) (direct.run w).2) :
    Ends (Shell.onCatalog operation) w Post := by
  refine fun output => ⟨_, _, output, holds, ?_⟩
  rintro console rfl written coherent
  obtain ⟨result, backend, coherent⟩ := implements console.catalog coherent
  rw [run_onCatalog, result]
  exact ⟨rfl, backend, written, coherent⟩

/-- An operation on the catalog that only looks things up. -/
theorem bind_query {next : β → ConsoleM α} (implements : Implements operation direct)
    {result : Except TrafficError β} (query : direct.run w = (result, w))
    (failed : ∀ e, Post (.error e) w) (goesOn : ∀ b, result = .ok b → Ends (next b) w Post) :
    Ends (Shell.onCatalog operation >>= next) w Post := by
  refine bind (onCatalog implements ?_)
  rw [query]
  cases result with
  | ok b => exact goesOn b rfl
  | error e => exact failed _

/-- An operation that ends a line, with a report of what it has done. -/
theorem report {Post : Except ShellError Unit → Workspace → Prop} {text : β → String}
    (implements : Implements operation direct)
    (holds : ∀ result, result.isOk = (direct.run w).1.isOk → Post result (direct.run w).2) :
    Ends (Shell.onCatalog operation >>= fun b => sayLine (text b)) w Post := by
  refine bind (onCatalog implements ?_)
  cases done : (direct.run w).1 with
  | ok b => exact say (holds (.ok ()) (by rw [done]; rfl))
  | error e => exact holds (.error (.traffic e)) (by rw [done]; rfl)

end Ends

/-- A program that leaves the workspace as it is. -/
def Quiet (program : ConsoleM α) : Prop := ∀ w, Ends program w fun _ after => after = w

theorem Quiet.bind {first : ConsoleM β} {next : β → ConsoleM α} (begins : Quiet first)
    (goesOn : ∀ b, Quiet (next b)) : Quiet (first >>= next) := by
  intro w
  refine .bind ((begins w).mono ?_)
  rintro (e | b) after rfl
  · rfl
  · exact goesOn b after

theorem quiet_say (text : String) : Quiet (say text) := fun _ => .say rfl

theorem quiet_check (result : Except ShellError α) : Quiet (check result) := fun _ => .check rfl

end Steering.Shell
