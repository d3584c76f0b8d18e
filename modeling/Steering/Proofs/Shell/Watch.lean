import Mathlib.Data.List.Chain
import Steering.Proofs.Shell.Restart
import Steering.Proofs.Shell.Tab

/-!
# What alerts watch

An alert is made for a private platform of the store, and refers to it by its id. Whether the
platform stays is another matter: nothing asks for the alerts when a platform is deleted, and one
that is replaced with `-force` comes back under another id, so an alert can be left without the
platform it watches (`dangling_alert`). There is no other way to it: in the states of a run every
alert watches a platform if and only if no line takes out a platform that is watched, and the only
lines that take out platforms are those that say so (`alerts_watching_iff`).

What alerts there are and what platforms there are is never changed by the same line, and no id is
given out twice. So a step keeps the alerts watching if it keeps what they watch, and an alert
whose platform is gone is not bound to a later one by accident.
-/

namespace Steering.Store.Document

open Traffic

/-- Every alert is about a private platform. -/
def Watching (doc : Document) : Prop :=
  ∀ alert ∈ doc.alerts, ∃ p ∈ doc.shelf (.own .platform), p.id = alert.platform

/-- The private platforms that alerts are about are still there in the next document. -/
def Spares (doc next : Document) : Prop :=
  ∀ alert ∈ doc.alerts, ∀ p ∈ doc.shelf (.own .platform), p.id = alert.platform →
    p ∈ next.shelf (.own .platform)

instance (doc : Document) : Decidable doc.Watching :=
  inferInstanceAs (Decidable (∀ alert ∈ doc.alerts, ∃ p ∈ doc.shelf (.own .platform),
    p.id = alert.platform))

instance (doc next : Document) : Decidable (doc.Spares next) :=
  inferInstanceAs (Decidable (∀ alert ∈ doc.alerts, ∀ p ∈ doc.shelf (.own .platform),
    p.id = alert.platform → p ∈ next.shelf (.own .platform)))

theorem mem_ownPlatforms {doc : Document} {p : Platform} :
    p ∈ doc.shelf (.own .platform) ↔ p ∈ doc.items .platform ∧ @deletable .platform p = true := by
  rw [shelf_own, List.mem_filter]

end Steering.Store.Document

namespace Steering.Shell

open Store Traffic Grammar

/-! ### One document after another -/

/-- The resource is one of the document, or it has been made for it under an id that was free. -/
def Stems (doc : Document) {kind : Kind} (item : kind.Item) : Prop :=
  item ∈ doc.items kind ∨ doc.nextId ≤ Kind.id item ∧ MadeFor doc item

/-- How a line may change a document: resources of one kind only, none of which is foreign to it. -/
structure Follows (doc next : Document) : Prop where
  oneKind : ∃ kind, ∀ other ≠ kind, next.items other = doc.items other
  stems : ∀ kind, ∀ item ∈ next.items kind, Stems doc item

theorem madeFor_asStored {doc : Document} {kind : Kind} {item : kind.Item} {now : Instant}
    {id : Nat} (madeFor : MadeFor doc item) : MadeFor doc (Document.asStored now id item) := by
  cases kind <;> exact madeFor

section

variable {doc next : Document}

/-- If the platforms have not changed, all that was watched still is, and so is what new alerts are
about. -/
theorem Follows.watching_of_platforms (follows : Follows doc next) (watching : doc.Watching)
    (same : next.shelf (.own .platform) = doc.shelf (.own .platform)) : next.Watching := by
  intro alert there
  rw [same]
  rcases follows.stems .alert alert there with old | ⟨-, watched, -⟩
  · exact watching alert old
  · exact watched

/-- If the alerts have not changed, they watch what they watched: what has its id is the platform
itself, since new platforms have new ids. -/
theorem Follows.watching_iff_of_alerts (follows : Follows doc next) (orderly : doc.Orderly)
    (watching : doc.Watching) (same : next.alerts = doc.alerts) :
    next.Watching ↔ doc.Spares next := by
  constructor
  · intro still alert there p own watched
    obtain ⟨q, ownAfter, watchedAfter⟩ := still alert (same ▸ there)
    have listed : p ∈ doc.items .platform := (Document.mem_ownPlatforms.mp own).1
    have sameId : p.id = q.id := watched.trans watchedAfter.symm
    -- What has the id afterwards is the platform that had it: no new one can have got it.
    rcases follows.stems .platform q (Document.mem_ownPlatforms.mp ownAfter).1 with old | ⟨new, -⟩
    · have samePlatform : p = q := List.inj_on_of_nodup_map (orderly.ids .platform) listed old sameId
      rwa [samePlatform]
    · have counted : p.id < doc.nextId := orderly.counted .platform p listed
      have new : doc.nextId ≤ q.id := new
      omega
  · intro spares alert there
    rw [same] at there
    obtain ⟨p, own, watched⟩ := watching alert there
    exact ⟨p, spares alert there p own watched, watched⟩

/-- **A step keeps the alerts watching if and only if it spares what they watch.** -/
theorem Follows.watching_iff (follows : Follows doc next) (orderly : doc.Orderly)
    (watching : doc.Watching) : next.Watching ↔ doc.Spares next := by
  obtain ⟨kind, others⟩ := follows.oneKind
  -- A line does not change alerts and platforms both, so one of the two is as before.
  by_cases alerts : kind = .alert
  · have same : next.shelf (.own .platform) = doc.shelf (.own .platform) := by
      rw [Document.shelf_own, Document.shelf_own, others .platform (by simp [alerts])]
    refine iff_of_true (follows.watching_of_platforms watching same) ?_
    intro alert _ p own _
    rwa [same]
  · exact follows.watching_iff_of_alerts orderly watching (others .alert (Ne.symm alerts))

end

variable {now : Instant} {w after : Workspace}

theorem Did.follows {α : Type} {result : Except ShellError α} (did : Did now w result after) :
    Follows w.store.document after.store.document := by
  constructor
  · cases did with
    | nothing => exact ⟨.zone, fun _ _ => rfl⟩
    | @planned plan => exact ⟨plan.kind, fun other apart => plan.items_carryOut_of_ne apart w⟩
  · refine did.forall_items (P := Stems w.store.document) ?_ fun _ _ => .inl
    intro kind item id wellMade free
    refine .inr ⟨?_, madeFor_asStored wellMade.madeFor⟩
    rwa [Document.id_asStored]

/-! ### What takes out platforms -/

section Lines

variable [FilterEngine]

/-- The line says that the private platform of a name is to go: it deletes platforms, and that one
is among those it names, or it replaces the platform. -/
inductive TakesOut (line : String) (doc : Document) (name : String) : Prop
  | deletes {args : Args Command} {names : List String} (parsed : spec.parse line = .ok args)
      (code : args.code = .delete .platform) (doomed : Doomed args doc .platform names)
      (among : name ∈ names) : TakesOut line doc name
  | replaces {args : Args Command} (parsed : spec.parse line = .ok args)
      (code : args.code = .createCloudPlatform) (forced : args.has "force" = true)
      (named : args.arg? "name" = some name) : TakesOut line doc name

variable {shell : Shell}

theorem takesOut_of_gone (reachable : Reachable shell) {line : String} {p : Platform}
    (own : p ∈ shell.document.shelf (.own .platform))
    (gone : p ∉ (shell.execute now line).2.document.shelf (.own .platform)) :
    TakesOut line shell.document p.name := by
  obtain ⟨coherent, orderly⟩ := reachable.sound
  obtain ⟨performed, -⟩ := execute_performed coherent now line
  change p ∉ (shell.execute now line).2.catalog.backend.store.document.shelf _ at gone
  generalize (shell.execute now line).2.catalog.backend = last at performed gone
  cases performed with
  | refused => exact absurd own gone
  | looked => exact absurd own gone
  | @planned plan asked =>
    obtain ⟨args, parsed, asked⟩ := asked
    obtain ⟨listed, private_⟩ := Document.mem_ownPlatforms.mp own
    have taken : plan.kind = .platform ∧ p.name ∈ plan.taken := by
      -- A platform that the plan does not take out by its name would still be there.
      by_contra spared
      refine gone (Document.mem_ownPlatforms.mpr ⟨?_, private_⟩)
      exact plan.mem_items_carryOut orderly listed spared
    obtain ⟨platforms, among⟩ := taken
    cases asked with
    | create => exact absurd among List.not_mem_nil
    | replace makes forced named =>
      obtain same : p.name = _ := List.mem_singleton.mp among
      exact .replaces parsed makes forced (same ▸ named)
    | delete deletes doomed =>
      cases platforms
      exact .deletes parsed deletes doomed among

/-! ### Runs -/

/-- The documents before, between and after lines. -/
def documents (shell : Shell) : List (Instant × String) → List Document
  | [] => [shell.document]
  | (now, line) :: lines => shell.document :: (shell.execute now line).2.documents lines

theorem exists_documents_eq (shell : Shell) (lines : List (Instant × String)) :
    ∃ rest, shell.documents lines = shell.document :: rest := by
  cases lines with
  | nil => exact ⟨[], rfl⟩
  | cons timed lines => exact ⟨_, rfl⟩

theorem reachable_after (reachable : Reachable shell) (lines : List (Instant × String)) :
    Reachable (shell.after lines) := by
  induction lines generalizing shell with
  | nil => exact reachable
  | cons timed lines ih => exact ih (.line reachable timed.1 timed.2)

/-- **When alerts watch platforms**: if every alert watches a private platform at the beginning of a
run, it does so in every state of the run if and only if no line takes out a platform that is
watched. Whatever has gone before, only lines that delete platforms or replace one take out any. -/
theorem alerts_watching_iff (reachable : Reachable shell) (watching : shell.document.Watching)
    (lines : List (Instant × String)) :
    ((∀ doc ∈ shell.documents lines, doc.Watching) ↔
        (shell.documents lines).IsChain Document.Spares) ∧
      ∀ before now line, ∀ p ∈ (shell.after before).document.shelf (.own .platform),
        p ∉ ((shell.after before).execute now line).2.document.shelf (.own .platform) →
          TakesOut line (shell.after before).document p.name := by
  refine ⟨?_, fun before now line p => takesOut_of_gone (reachable_after reachable before)⟩
  induction lines generalizing shell with
  | nil =>
    refine iff_of_true ?_ (List.isChain_singleton _)
    intro doc there
    rwa [List.mem_singleton.mp there]
  | cons timed lines ih =>
    obtain ⟨now, line⟩ := timed
    obtain ⟨coherent, orderly⟩ := reachable.sound
    have follows : Follows shell.document (shell.execute now line).2.document :=
      (execute_did coherent now line).1.follows
    have step := follows.watching_iff orderly watching
    have ih := fun still => ih (.line reachable now line) still
    -- The rest of the run begins with the document that the line leaves.
    obtain ⟨rest, isRest⟩ := exists_documents_eq (shell.execute now line).2 lines
    rw [documents, isRest, List.forall_mem_cons, List.isChain_cons_cons, ← isRest, ← step]
    constructor
    · intro ⟨_, each⟩
      have still : (shell.execute now line).2.document.Watching :=
        each _ (isRest ▸ List.mem_cons_self)
      exact ⟨still, (ih still).mp each⟩
    · intro ⟨still, chain⟩
      exact ⟨watching, (ih still).mpr chain⟩

end Lines

/-- A shell with a platform of its own, and an alert about it. -/
def watched : Shell :=
  community.after
    [(default, "create platform cloud edge -region \"Azure - West Europe\""),
      (default, "create alert down -platform edge")]

theorem reachable_watched : Reachable watched := reachable_after (.seeded {} none 80) _

/-- The alerts do not mind what happens to another platform. -/
theorem alerts_watching_beside_another :
    let lines := [(default, "create platform cloud spare -region \"Azure - West Europe\""),
      (default, "delete platform spare")]
    watched.document.alerts.map (·.platform) = [11] ∧
      ∀ doc ∈ watched.documents lines, doc.Watching := by
  intro lines
  have facts : watched.document.alerts.map (·.platform) = [11] ∧ watched.document.Watching ∧
      (watched.documents lines).IsChain Document.Spares := by decide +kernel
  obtain ⟨about, watching, spared⟩ := facts
  exact ⟨about, (alerts_watching_iff reachable_watched watching lines).1.mpr spared⟩

/-- **An alert that dangles**: an alert is still about the old platform, and its listing names none,
when its platform has been replaced by another of the name; likewise when it has been deleted. -/
theorem dangling_alert :
    let replaced := (watched.execute default
      "create platform cloud edge -region \"Azure - West Europe\" -force").2
    let deleted := (watched.execute default "delete platform edge").2
    (Reachable replaced ∧ Reachable deleted) ∧
      replaced.document.alerts.map (·.platform) = [11] ∧
      (replaced.document.shelf (.own .platform)).map (fun p => (p.name, p.id)) = [("edge", 13)] ∧
      (replaced.execute default "list alert").1.output =
        "Name Enabled Platform\n==== ======= ========\ndown true            \n" ∧
      ¬ replaced.document.Watching ∧ ¬ deleted.document.Watching := by
  intro replaced deleted
  exact ⟨⟨.line reachable_watched default _, .line reachable_watched default _⟩, by decide +kernel⟩

end Steering.Shell
