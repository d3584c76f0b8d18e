import Steering.Proofs.Shell.Watch

/-!
# Private platforms are well formed

What the console has made sure of when it makes a private platform (`WellMade`), and what the store
writes into it, stays true of the platform for ever (`private_wellFormed`). Most of it says
something of the platform alone, which no later line changes. Its archetype is another platform of
the store, and that is still there because no line touches the community platforms
(`Did.community`).
-/

namespace Steering.Shell

open Store Traffic Grammar

variable {shell : Shell} {now : Instant}

/-- A private platform as it should be in a document. -/
structure WellFormed (doc : Document) (p : Platform) : Prop where
  visible : Text.allBlank p.name = false
  unquoted : '"' ∉ p.name.toList
  unmarked : p.name.toList.head? ≠ some '-'
  shortName : p.shortName ≠ ""
  archetype : ∃ region ∈ doc.shelf .community,
    region.category = .cloudComputing ∧ p.archetype = some region.id
  stamped : ∃ made, p.created = some made ∧ p.modified = some made
  usable : ∀ sonar ∈ p.sonar, Usable sonar

/-- The resource is well formed if it is a private platform. -/
def WellFormedIfPrivate (doc : Document) : {kind : Kind} → kind.Item → Prop
  | .platform, p => Platform.visibility p = .private_ → WellFormed doc p
  | .alert, _ | .application, _ | .zone, _ => True

/-! ### What one line keeps -/

theorem Did.community {α : Type} {w after : Workspace} {result : Except ShellError α}
    (did : Did now w result after) :
    after.store.document.shelf .community = w.store.document.shelf .community := by
  cases did with
  | nothing => rfl
  | @planned plan => exact plan.community_carryOut w

/-- It depends on the community platforms only whether a platform is well formed. -/
theorem WellFormedIfPrivate.of_community {doc next : Document} {kind : Kind} {item : kind.Item}
    (same : next.shelf .community = doc.shelf .community)
    (wellFormed : WellFormedIfPrivate doc item) : WellFormedIfPrivate next item := by
  cases kind with
  | platform =>
    intro isPrivate
    have before := wellFormed isPrivate
    exact { before with archetype := same ▸ before.archetype }
  | alert | application | zone => trivial

/-- What is made is well formed once it is stored. -/
theorem WellMade.wellFormed {doc : Document} {kind : Kind} {item : kind.Item} {id : Nat}
    (wellMade : WellMade doc item) : WellFormedIfPrivate doc (Document.asStored now id item) := by
  obtain ⟨⟨unmarked, unquoted⟩, visible, madeFor, complete⟩ := wellMade
  cases kind with
  | platform =>
    have unmarked : ¬ (@Kind.nameOf .platform item).toList.head? = some '-' := by
      simpa [isMarked, marker] using unmarked
    intro _
    exact {
      visible
      unquoted
      unmarked
      shortName := complete.1
      archetype := madeFor.1
      stamped := ⟨now, rfl, rfl⟩
      usable := complete.2 }
  | alert | application | zone => trivial

theorem Did.wellFormed {α : Type} {w after : Workspace} {result : Except ShellError α}
    (did : Did now w result after)
    (wellFormed : ∀ kind, ∀ item ∈ w.store.document.items kind,
      WellFormedIfPrivate w.store.document item) :
    ∀ kind, ∀ item ∈ after.store.document.items kind,
      WellFormedIfPrivate after.store.document item := by
  -- The community platforms are those of the beginning, so it can be looked at what is made for it.
  have kept := did.forall_items (P := WellFormedIfPrivate w.store.document)
    (fun _ _ wellMade _ => wellMade.wellFormed) wellFormed
  exact fun kind item there => (kept kind item there).of_community did.community

/-! ### Runs -/

theorem Reachable.wellFormed [FilterEngine] (reachable : Reachable shell) :
    ∀ kind, ∀ item ∈ shell.document.items kind, WellFormedIfPrivate shell.document item := by
  induction reachable with
  | seeded =>
    intro kind item there
    cases kind with
    | platform =>
      -- There are only community platforms at the beginning.
      have shared : ∀ p ∈ seed.platforms, p.visibility = .community := by decide +kernel
      intro isPrivate
      cases (shared item there).symm.trans isPrivate
    | alert | application | zone => trivial
  | empty =>
    intro kind item there
    cases kind <;> exact absurd there List.not_mem_nil
  | line reachable now line ih => exact (execute_did reachable.sound.1 now line).1.wellFormed ih
  | files _ disk ih => exact ih

/-- **Private platforms are well formed for ever**: whatever lines are carried out, every private
platform has a name that is seen and can be typed, a short name, an archetype among the community
platforms that is for cloud computing, and one time at which it was made and modified; and if it
has a health check, this can be run. -/
theorem private_wellFormed [FilterEngine] (reachable : Reachable shell) :
    ∀ p ∈ shell.document.platforms, p.visibility = .private_ → WellFormed shell.document p :=
  reachable.wellFormed .platform

/-- A shell with a platform of its own, whose health check is given no method. -/
def checked : Shell :=
  community.after [(default, "create platform cloud \"my edge\" -region \"Azure - West Europe\" " ++
    "-sonarPollInterval 60")]

/-- The short name and the method are those that a platform gets if it is given none. -/
theorem private_wellFormed_checked :
    ∃ p ∈ checked.document.platforms, p.visibility = .private_ ∧
      (p.name, p.shortName) = ("my edge", "my_edge") ∧
      p.sonar.map (·.method) = some (some "GET") ∧ WellFormed checked.document p := by
  have facts : ∃ p ∈ checked.document.platforms, p.visibility = .private_ ∧
      (p.name, p.shortName) = ("my edge", "my_edge") ∧
      p.sonar.map (·.method) = some (some "GET") := by decide +kernel
  obtain ⟨p, there, isPrivate, names, method⟩ := facts
  have reachable : Reachable checked := reachable_after (.seeded {} none 80) _
  exact ⟨p, there, isPrivate, names, method, private_wellFormed reachable p there isPrivate⟩

end Steering.Shell
