import Steering.Proofs.Shell.Tab

/-!
# What a line that succeeds changes

A line that succeeds has changed the document in the way its command says and in no other
(`execute_changes`). A create command puts one resource behind those of its kind, under the next
free id (`Gains`); a delete command that names a resource takes out that one (`Loses`); `-force`
first takes out the platform that is in the way. Looking at resources changes nothing.

Between a name on a line and the resource that goes there is an id: the name is looked up in a
listing, and the first resource with the id found there is taken out. That it is the one with the
name, and the only one, is because reachable documents are orderly.
-/

namespace Steering.Store.Document

open Traffic

variable {kind : Kind} {doc next : Document}

/-- The next document has one more resource of a kind, at the end, with a name that was free and the
next free id, and is otherwise the same. -/
def Gains (doc : Document) (kind : Kind) (name : String) (next : Document) : Prop :=
  (∀ other ∈ doc.items kind, Kind.nameOf other ≠ name) ∧
    ∃ item : kind.Item, Kind.nameOf item = name ∧ Kind.id item = max doc.nextId 1 ∧
      next = { doc.withItems kind (doc.items kind ++ [item]) with nextId := max doc.nextId 1 + 1 }

/-- The next document lacks the one resource of a kind that has the name, which was the user's own,
and is otherwise the same. -/
def Loses (doc : Document) (kind : Kind) (name : String) (next : Document) : Prop :=
  ∃ before item after, doc.items kind = before ++ item :: after ∧
    Kind.nameOf item = name ∧ deletable item = true ∧
    (∀ other ∈ before ++ after, Kind.nameOf other ≠ name) ∧
    next = doc.withItems kind (before ++ after)

theorem gains_of_create {now : Instant} {item stored : kind.Item}
    (created : doc.create now item = .ok (stored, next)) : doc.Gains kind (Kind.nameOf item) next := by
  obtain ⟨new, -, rfl, rfl⟩ := create_eq_ok_iff.mp created
  exact ⟨new, _, nameOf_asStored now _ item, id_asStored now _ item, rfl⟩

/-- Taking out by id takes out the resource itself, and no other has its name. -/
theorem Orderly.loses (orderly : doc.Orderly) {item : kind.Item} (listed : item ∈ doc.items kind)
    (own : deletable item = true) :
    doc.Loses kind (Kind.nameOf item) (doc.remove kind (Kind.id item)) := by
  have isDoomed : doomed (Kind.id item) item = true := by simp [doomed, own]
  obtain ⟨first, before, after, -, firstDoomed, split, rest⟩ :=
    List.exists_of_eraseP listed isDoomed
  have isFirst : first = item := by
    have there : first ∈ doc.items kind := by simp [split]
    have sameId : Kind.id first = Kind.id item := by
      simp only [doomed, Bool.and_eq_true, decide_eq_true_eq] at firstDoomed
      exact firstDoomed.1
    exact List.inj_on_of_nodup_map (orderly.ids kind) there listed sameId
  subst isFirst
  refine ⟨before, first, after, split, rfl, own, fun other there same => ?_, ?_⟩
  · -- The name of the first would be listed twice.
    have distinct := orderly.names kind
    rw [split, List.map_append, List.map_cons, List.nodup_middle, List.nodup_cons,
      ← List.map_append] at distinct
    exact distinct.1 (List.mem_map.mpr ⟨other, there, same⟩)
  · rw [Document.remove, rest]

end Steering.Store.Document

namespace Steering.Shell

open Store Traffic Grammar

/-- What a command that succeeds does to the document. A delete command without a name goes by its
filter, which is not spoken of here. -/
def Changes (args : Args Command) (doc next : Document) : Prop :=
  match args.code with
  | .createCloudPlatform => ∃ name, args.arg? "name" = some name ∧ ∃ rest : Document,
      (if args.has "force" = true ∧ ∃ p ∈ doc.shelf (.own .platform), p.name = name then
        doc.Loses .platform name rest
      else rest = doc) ∧
      rest.Gains .platform name next
  | .createAlert => ∃ name, args.arg? "name" = some name ∧ doc.Gains .alert name next
  | .createApplication => ∃ name, args.arg? "name" = some name ∧ doc.Gains .application name next
  | .createZone => ∃ name, args.arg? "name" = some name ∧ doc.Gains .zone name next
  | .delete kind => ∀ name, args.arg? "name" = some name → name ≠ "" → doc.Loses kind name next
  | .listPlatforms _ | .listAlerts | .listApplications | .listZones | .showOne _ | .help | .exit =>
    next = doc

variable {now : Instant} {w after : Workspace} {args : Args Command}

theorem changes_of_looks (looks : args.code.looks = true) (doc : Document) :
    Changes args doc doc := by
  obtain ⟨code, values, handler⟩ := args
  cases code with
  | createCloudPlatform | createAlert | createApplication | createZone | delete => cases looks
  | _ => rfl

/-- What has been created was not there, so that nothing was in its way. -/
theorem changes_of_create {kind : Kind} {item stored : kind.Item}
    (makes : args.code.makes? = some kind) (named : args.arg? "name" = some (Kind.nameOf item))
    (created : w.create now item = (.ok stored, after)) :
    Changes args w.store.document after.store.document := by
  obtain ⟨disk, made, -, rfl⟩ := Workspace.create_eq_ok_iff.mp created
  have gains := Document.gains_of_create made
  obtain ⟨code, values, handler⟩ := args
  cases code with
  | createCloudPlatform =>
    cases makes
    have absent : ¬ ∃ p ∈ w.store.document.shelf (.own .platform), p.name = Platform.name item := by
      rintro ⟨p, own, same⟩
      exact gains.1 p (List.mem_filter.mp own).1 same
    exact ⟨_, named, w.store.document, by rw [if_neg fun there => absent there.2], gains⟩
  | createAlert | createApplication | createZone =>
    cases makes
    exact ⟨_, named, gains⟩
  | _ => cases makes

theorem loses_of_delete {kind : Kind} {name : String} (orderly : w.store.document.Orderly)
    (deleted : (Uncached.delete (service now) kind name).run w = (.ok (), after)) :
    w.store.document.Loses kind name after.store.document := by
  obtain ⟨item, listed, own, rfl, disk, -, rfl⟩ := Uncached.delete_eq_ok deleted
  exact orderly.loses listed own

/-- With the old platform gone the new one is created as any other. -/
theorem changes_of_replace {platform : Platform} (orderly : w.store.document.Orderly)
    (makes : args.code = .createCloudPlatform) (forced : args.has "force" = true)
    (named : args.arg? "name" = some platform.name)
    (listed : platform.name ∈ (w.store.document.shelf (.own .platform)).map Platform.name)
    (done : ((Plan.replace platform).carryOut now).run w = (.ok (), after)) :
    Changes args w.store.document after.store.document := by
  rw [Plan.run_carryOut_replace] at done
  split at done
  next between deleted =>
    -- What `-force` has found in the way is what has been deleted.
    obtain ⟨stored, created⟩ := Plan.create_of_carryOut done
    obtain ⟨disk, made, -, rfl⟩ := Workspace.create_eq_ok_iff.mp created
    have there : ∃ p ∈ w.store.document.shelf (.own .platform), p.name = platform.name :=
      List.mem_map.mp listed
    unfold Changes
    rw [makes]
    refine ⟨platform.name, named, between.store.document, ?_, Document.gains_of_create made⟩
    rw [if_pos ⟨forced, there⟩]
    exact loses_of_delete orderly deleted
  next => cases done

theorem changes_of_delete [FilterEngine] {kind : Kind} {names : List String}
    (orderly : w.store.document.Orderly) (deletes : args.code = .delete kind)
    (doomed : Doomed args w.store.document kind names)
    (done : ((Plan.delete kind names).carryOut now).run w = (.ok (), after)) :
    Changes args w.store.document after.store.document := by
  unfold Changes
  rw [deletes]
  intro name named nonempty
  -- A name that is given rules the filter out.
  have given : given? args "name" = some name := by simp [given?, named, nonempty]
  cases doomed with
  | named alone =>
    rw [given] at alone
    cases alone
    rw [Plan.carryOut, Uncached.deleteAll, run_bind] at done
    split at done
    next between deleted =>
      cases done
      exact loses_of_delete orderly deleted
    next => cases done
  | matched unnamed =>
    rw [given] at unnamed
    cases unnamed

/-- **What a line that succeeds changes**: over a reachable store, a line that is accepted is a
command, and the document has changed as the command says. -/
theorem execute_changes [FilterEngine] {shell : Shell} (reachable : Reachable shell)
    {line : String} {outcome : Outcome}
    (accepted : (shell.execute now line).1.result = .ok outcome) :
    ∃ args, spec.parse line = .ok args ∧
      Changes args shell.document (shell.execute now line).2.document := by
  obtain ⟨coherent, orderly⟩ := reachable.sound
  obtain ⟨performed, -⟩ := execute_performed coherent now line
  rw [accepted] at performed
  change ∃ args, _ ∧ Changes args _ (shell.execute now line).2.catalog.backend.store.document
  generalize (shell.execute now line).2.catalog.backend = last at performed ⊢
  cases performed with
  | refused failed => cases failed
  | looked asked =>
    obtain ⟨args, parsed, ⟨looks⟩⟩ := asked
    exact ⟨args, parsed, changes_of_looks looks _⟩
  | @planned plan asked fits _ same =>
    obtain ⟨args, parsed, asked⟩ := asked
    refine ⟨args, parsed, ?_⟩
    -- The line has succeeded, so the plan has.
    generalize done : (plan.carryOut now).run shell.catalog.backend = ended at same
    obtain ⟨_ | _, last⟩ := ended
    · cases same
    cases asked with
    | create makes named =>
      obtain ⟨stored, created⟩ := Plan.create_of_carryOut done
      exact changes_of_create makes named created
    | replace makes forced named => exact changes_of_replace orderly makes forced named fits done
    | delete deletes doomed => exact changes_of_delete orderly deletes doomed done

/-- A shell with one platform of its own. -/
def withEdge : Shell :=
  (community.execute default "create platform cloud edge -region \"Azure - West Europe\"").2

/-- The platform comes back under the next free id. -/
theorem execute_changes_force :
    let line := "create platform cloud edge -region \"Azure - West Europe\" -force"
    (withEdge.document.shelf (.own .platform)).map (fun p => (p.name, p.id)) = [("edge", 11)] ∧
      (∃ args, spec.parse line = .ok args ∧
        Changes args withEdge.document (withEdge.execute default line).2.document) ∧
      ((withEdge.execute default line).2.document.shelf (.own .platform)).map
        (fun p => (p.name, p.id)) = [("edge", 12)] := by
  intro line
  have reachable : Reachable withEdge := .line (.seeded {} none 80) default _
  have facts : (withEdge.document.shelf (.own .platform)).map (fun p => (p.name, p.id)) =
        [("edge", 11)] ∧
      (withEdge.execute default line).1.result = .ok .proceed ∧
      ((withEdge.execute default line).2.document.shelf (.own .platform)).map
        (fun p => (p.name, p.id)) = [("edge", 12)] := by decide +kernel
  obtain ⟨old, accepted, new⟩ := facts
  exact ⟨old, execute_changes reachable accepted, new⟩

end Steering.Shell
