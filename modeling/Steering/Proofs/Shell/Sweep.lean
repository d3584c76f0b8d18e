import Steering.Proofs.Shell.Atomic

/-!
# Deleting what a filter matches

A delete command that gives a filter and no name first lists the names that the filter matches, and
then deletes name by name: for each of them a resource is looked up, taken out by its id, and the
file is written. On a reachable store that comes to one filter of the document
(`execute_sweep`): the resources that are gone are exactly the user's own with a name that matches,
and everything else is where it was. That holds for every engine that reads filters, since of a
filter no more is used than which names it matches.

Two things carry this. Names and ids are distinct, so that each deletion takes out the one resource
that was listed, and none that is still to come (`Uncached.document_deleteAll`,
`Uncached.exists_deleteAll`). And the caches stay true, so that each lookup sees what the deletions
before it have left.
-/

namespace Steering.Shell

open Store Traffic Grammar

variable {shell : Shell} {kind : Kind}

/-- The resource is the user's own and its name matches. -/
def swept (isMatch : String → Bool) (item : kind.Item) : Bool :=
  Document.deletable item && isMatch (Kind.nameOf item)

theorem filter_shelf (isMatch : String → Bool) (doc : Document) (kind : Kind) :
    (doc.shelf (.own kind)).filter (fun item => isMatch (Kind.nameOf item)) =
      (doc.items kind).filter (swept isMatch) := by
  rw [Document.shelf_own, List.filter_filter]
  exact List.filter_congr fun item _ => Bool.and_comm _ _

/-- The names that a filter lists. -/
def sweptNames (isMatch : String → Bool) (doc : Document) (kind : Kind) : List String :=
  ((doc.items kind).filter (swept isMatch)).map Kind.nameOf

/-- With distinct names, what has one of the listed names is what was listed. -/
theorem mem_sweptNames_iff {doc : Document} (orderly : doc.Orderly) (isMatch : String → Bool)
    {item : kind.Item} (there : item ∈ doc.items kind) :
    Kind.nameOf item ∈ sweptNames isMatch doc kind ↔ swept isMatch item = true := by
  constructor
  · intro listed
    obtain ⟨other, member, same⟩ := List.mem_map.mp listed
    obtain ⟨otherThere, matched⟩ := List.mem_filter.mp member
    rwa [← List.inj_on_of_nodup_map (orderly.names kind) otherThere there same]
  · exact fun matched => List.mem_map_of_mem (List.mem_filter.mpr ⟨there, matched⟩)

theorem sweptNames_sublist (isMatch : String → Bool) (doc : Document) (kind : Kind) :
    (sweptNames isMatch doc kind).Sublist ((doc.shelf (.own kind)).map Kind.nameOf) := by
  rw [sweptNames, ← filter_shelf]
  exact List.filter_sublist.map _

/-- All that was listed can be deleted, and then exactly that is gone. -/
theorem deleteAll_swept {w : Workspace} (orderly : w.store.document.Orderly) (steady : w.Steady)
    (writable : w.Writable) (now : Instant) (kind : Kind) (isMatch : String → Bool) :
    ∃ after, (Uncached.deleteAll (service now) kind
        (sweptNames isMatch w.store.document kind)).run w = (.ok (), after) ∧
      after.store.document = w.store.document.withItems kind
        ((w.store.document.items kind).filter fun item => !swept isMatch item) := by
  have listed := sweptNames_sublist isMatch w.store.document kind
  -- The names are distinct, so that each of them is still there when its turn comes.
  obtain ⟨after, done⟩ := Uncached.exists_deleteAll orderly steady writable
    ((orderly.shelf_names kind).sublist listed) fun name member => listed.subset member
  refine ⟨after, done, ?_⟩
  rw [Uncached.document_deleteAll orderly done]
  refine congrArg _ (List.filter_congr fun item there => ?_)
  rw [Bool.eq_iff_iff]
  simp [mem_sweptNames_iff orderly isMatch there]

/-! ### The command -/

/-- An empty value means that the argument is not given. -/
theorem given?_eq {Code : Type} (args : Args Code) (name : String) :
    given? args name = if args.argOrEmpty name = "" then none else some (args.argOrEmpty name) := by
  unfold given? ParsedCommand.argOrEmpty
  cases args.arg? name with
  | none => rfl
  | some value => by_cases empty : value = "" <;> simp [empty]

section Command

variable [FilterEngine] {catalog : Catalog Workspace} {args : Args Command} {filter : String}
  {isMatch : String → Bool}

/-- The names are listed truly, whatever is cached. -/
theorem run_doomedNames (now : Instant) (kind : Kind) (coherent : catalog.Coherent)
    (unnamed : given? args "name" = none) (filtered : given? args "filter" = some filter)
    (valid : FilterEngine.read? filter = some isMatch) :
    ∃ listed : Catalog Workspace, listed.Coherent ∧ listed.backend = catalog.backend ∧
      (doomedNames (service now) kind args).run { catalog } =
        (.ok (sweptNames isMatch catalog.backend.store.document kind), { catalog := listed }) := by
  obtain ⟨result, backend, still⟩ := Implements.list now (.own kind) catalog coherent
  rw [run_list] at result backend
  refine ⟨_, still, backend, ?_⟩
  have nonempty : filter.isEmpty = false := by
    simpa using (Option.filter_eq_some_iff.mp filtered).2
  have kept : filterByName Kind.nameOf filter
      (catalog.backend.store.document.shelf (.own kind)) =
      .ok ((catalog.backend.store.document.items kind).filter (swept isMatch)) := by
    rw [filterByName, nonempty, if_neg Bool.false_ne_true, valid, ← filter_shelf]
  simp only [doomedNames, unnamed, filtered, run_bind, run_onCatalog, result, Except.mapError]
  rw [kept]
  rfl

theorem run_runDelete (now : Instant) (kind : Kind) (coherent : catalog.Coherent)
    (orderly : catalog.backend.store.document.Orderly) (steady : catalog.backend.Steady)
    (writable : catalog.backend.Writable) (unnamed : given? args "name" = none)
    (filtered : given? args "filter" = some filter)
    (valid : FilterEngine.read? filter = some isMatch) :
    ∃ last : Catalog Workspace,
      (runDelete (service now) kind args).run { catalog } = (.ok (),
        { catalog := last
          output := "Deleted " ++
            toString ((catalog.backend.store.document.items kind).filter (swept isMatch)).length ++
              " " ++ kind.name ++ "(s)\n" }) ∧
      last.backend.store.document = catalog.backend.store.document.withItems kind
        ((catalog.backend.store.document.items kind).filter fun item => !swept isMatch item) := by
  obtain ⟨listed, stillCoherent, same, lists⟩ :=
    run_doomedNames now kind coherent unnamed filtered valid
  obtain ⟨after, done, document⟩ := deleteAll_swept orderly steady writable now kind isMatch
  -- What is deleted is looked up behind the cache that the listing has just filled.
  obtain ⟨result, backend, -⟩ := implements_deleteAll now kind
    (sweptNames isMatch catalog.backend.store.document kind) listed stillCoherent
  rw [same, done] at result backend
  refine ⟨_, ?_, (congrArg (·.store.document) backend).trans document⟩
  rw [runDelete, run_bind, lists]
  dsimp only
  rw [run_bind, run_onCatalog, result, sweptNames, List.length_map]
  dsimp only [Except.mapError]
  rw [run_sayLine, String.empty_append, String.append_assoc]
  rfl

end Command

/-- **A filter deletes exactly what it matches**, whatever engine reads it. Over a reachable store
that can be written, take a line that is a delete command with no name, or an empty one, and with a
filter that the engine can read. The line succeeds and reports how many of the user's own resources
of its kind have a name that matches. The document has lost those, and is the same in everything
else. -/
theorem execute_sweep [FilterEngine] (reachable : Reachable shell)
    (steady : shell.catalog.backend.Steady) (writable : shell.catalog.backend.Writable)
    (now : Instant) {line : String} {args : Args Command} {isMatch : String → Bool}
    (parsed : spec.parse line = .ok args) (deletes : args.code = .delete kind)
    (unnamed : args.argOrEmpty "name" = "") (filtered : args.argOrEmpty "filter" ≠ "")
    (valid : FilterEngine.read? (args.argOrEmpty "filter") = some isMatch) :
    (shell.execute now line).1 =
        { result := .ok .proceed
          output := "Deleted " ++
            toString ((shell.document.items kind).filter (swept isMatch)).length ++ " " ++
              kind.name ++ "(s)\n" } ∧
      (shell.execute now line).2.document = shell.document.withItems kind
        ((shell.document.items kind).filter fun item => !swept isMatch item) := by
  obtain ⟨coherent, orderly⟩ := reachable.sound
  obtain ⟨code, values, handler⟩ := args
  subst deletes
  obtain ⟨last, ran, document⟩ := run_runDelete now kind coherent orderly steady writable
    ((given?_eq _ _).trans (if_pos unnamed)) ((given?_eq _ _).trans (if_neg filtered)) valid
  have goesOn : runCommand now shell.tableWidth ⟨Command.delete kind, values, handler⟩ =
      (runDelete (service now) kind ⟨Command.delete kind, values, handler⟩ >>=
        fun _ => pure .proceed) := rfl
  rw [execute_of_run parsed (by rw [goesOn, run_bind, ran]; rfl)]
  exact ⟨rfl, document⟩

/-- A shell with three zones. -/
def withZones : Shell :=
  ["create zone a.example", "create zone b.test", "create zone c.example"].foldl
    (fun shell line => (shell.execute default line).2) (.new { store := seeded } 80)

/-- Of three zones the filter takes out two. -/
theorem execute_sweep_zones :
    (withZones.execute default "delete zone -filter \\.example$").1 =
        { result := .ok .proceed, output := "Deleted 2 zone(s)\n" } ∧
      ((withZones.execute default "delete zone -filter \\.example$").2.document.items .zone).map
        Zone.domainName = ["b.test"] := by
  have reachable : Reachable withZones :=
    .line (.line (.line (.seeded {} none 80) default _) default _) default _
  obtain ⟨steady, writable⟩ :=
    Workspace.writable_of_inMemory (w := withZones.catalog.backend) (by decide +kernel)
  obtain ⟨args, parsed, deletes, unnamed, filtered⟩ : ∃ args,
      spec.parse "delete zone -filter \\.example$" = .ok args ∧ args.code = .delete .zone ∧
        args.argOrEmpty "name" = "" ∧ args.argOrEmpty "filter" = "\\.example$" :=
    ⟨_, rfl, rfl, by decide, by decide⟩
  have zones : (FilterEngine.read? "\\.example$").map (fun isMatch =>
      (((withZones.document.items .zone).filter (swept isMatch)).length,
        ((withZones.document.items .zone).filter fun zone => !swept isMatch zone).map
          Zone.domainName)) = some (2, ["b.test"]) := by decide +kernel
  obtain ⟨isMatch, valid, counted⟩ := Option.map_eq_some_iff.mp zones
  obtain ⟨two, left⟩ := Prod.mk.inj counted
  obtain ⟨reply, document⟩ := execute_sweep reachable steady writable default parsed deletes
    unnamed (by rw [filtered]; decide) (by rw [filtered]; exact valid)
  rw [reply, document, Document.items_withItems, two]
  exact ⟨rfl, left⟩

end Steering.Shell
