import Steering.Proofs.Store.Catalog
import Steering.Proofs.Store.Orderly

/-!
# Plans

A line of the console changes the store by at most one *plan*: it creates a resource, replaces a
platform, or deletes resources of one kind by their names. A plan may take several changes, each of
which is written by itself. It still happens as a whole or not at all (`eq_of_carryOut_error`): if
it has more than one change, it was made from what the store holds, so that no change after the
first can be refused, and after the first has been written none can fail to be.
-/

namespace Steering.Store

open Traffic

namespace Catalog

variable {kind : Kind} {name : String} {items : List kind.Item}

theorem named_eq_ok_iff {item : kind.Item} : named name items = .ok item ↔
    items.find? (fun other => Kind.nameOf other = name) = some item := by
  unfold named
  cases items.find? fun other => Kind.nameOf other = name <;> simp

theorem named_eq_ok {item : kind.Item} (found : named name items = .ok item) :
    item ∈ items ∧ Kind.nameOf item = name := by
  have first := named_eq_ok_iff.mp found
  exact ⟨List.mem_of_find?_eq_some first, by simpa using List.find?_some first⟩

theorem exists_named (listed : name ∈ items.map Kind.nameOf) :
    ∃ item, named name items = .ok item := by
  obtain ⟨item, member, same⟩ := List.mem_map.mp listed
  unfold named
  cases found : items.find? fun item => Kind.nameOf item = name with
  | some first => exact ⟨first, rfl⟩
  | none => exact absurd same (by simpa using List.find?_eq_none.mp found item member)

end Catalog

namespace Uncached

variable {σ : Type} (s : Service σ)

/-- Deletes resources by name, up to the first that cannot be deleted. -/
def deleteAll (kind : Kind) : List String → ExceptT TrafficError (StateM σ) Unit
  | [] => pure ()
  | name :: names => do
    delete s kind name
    deleteAll kind names

variable {now : Instant} {kind : Kind} {name : String} {w after : Workspace}

theorem run_byName : (byName (service now) kind name).run w =
    (Catalog.named name (w.store.document.shelf (.own kind)), w) :=
  run_liftM _ w

theorem run_delete_named : (delete (service now) kind name).run w =
    match Catalog.named name (w.store.document.shelf (.own kind)) with
    | .ok item => w.delete kind (Kind.id item)
    | .error e => (.error e, w) := by
  rw [delete, run_bind, run_byName]
  cases Catalog.named name (w.store.document.shelf (.own kind)) <;> rfl

theorem eq_of_delete_error {e : TrafficError}
    (failed : (delete (service now) kind name).run w = (.error e, after)) : after = w := by
  rw [run_delete_named] at failed
  split at failed
  · exact Workspace.eq_of_delete_error failed
  · cases failed
    rfl

/-- Deleting by name takes a resource of that name from the own shelf. -/
theorem delete_eq_ok (deleted : (delete (service now) kind name).run w = (.ok (), after)) :
    ∃ item ∈ w.store.document.items kind, Document.deletable item = true ∧
      Kind.nameOf item = name ∧ ∃ disk,
        Store.save { w.store with document := w.store.document.remove kind (Kind.id item) } w.disk =
          .ok disk ∧
        after = w.keep (w.store.document.remove kind (Kind.id item)) disk := by
  rw [run_delete_named] at deleted
  split at deleted
  next item found =>
    obtain ⟨listed, named⟩ := Catalog.named_eq_ok found
    obtain ⟨disk, -, saved, kept⟩ := Workspace.delete_eq_ok_iff.mp deleted
    rw [Document.shelf_own, List.mem_filter] at listed
    exact ⟨item, listed.1, listed.2, named, disk, saved, kept⟩
  next => cases deleted

/-- A resource that is listed can be deleted by its name if the store can be written. -/
theorem exists_delete (listed : name ∈ (w.store.document.shelf (.own kind)).map Kind.nameOf)
    (writable : w.Writable) :
    ∃ after, (delete (service now) kind name).run w = (.ok (), after) := by
  obtain ⟨item, found⟩ := Catalog.exists_named listed
  have own := (Catalog.named_eq_ok found).1
  rw [Document.shelf_own, List.mem_filter] at own
  obtain ⟨disk, saved⟩ := writable (w.store.document.remove kind (Kind.id item))
  have gone : w.store.document.delete kind (Kind.id item) =
      .ok (w.store.document.remove kind (Kind.id item)) :=
    Document.delete_eq_ok_iff.mpr ⟨⟨item, own.1, by simp [Document.doomed, own.2]⟩, rfl⟩
  rw [run_delete_named, found]
  exact ⟨_, Workspace.delete_eq_ok_iff.mpr ⟨disk, gone, saved, rfl⟩⟩

/-- After a resource has been deleted by its name, the document is orderly, it can be written
again, and no resource but the deleted one is gone. -/
theorem delete_spec (orderly : w.store.document.Orderly) (steady : w.Steady)
    (deleted : (delete (service now) kind name).run w = (.ok (), after)) :
    after.store.document.Orderly ∧ after.Steady ∧ after.Writable ∧
      after.store.document.items kind =
        (w.store.document.items kind).filter fun item => !decide (Kind.nameOf item = name) := by
  obtain ⟨item, listed, own, rfl, disk, saved, rfl⟩ := delete_eq_ok deleted
  obtain ⟨steady, writable⟩ := steady.keep saved
  exact ⟨orderly.remove kind _, steady, writable, orderly.items_remove listed own⟩

/-- What has another name than the deleted resource is still listed. -/
theorem listed_of_delete (orderly : w.store.document.Orderly) (steady : w.Steady)
    (deleted : (delete (service now) kind name).run w = (.ok (), after)) {other : String}
    (different : other ≠ name)
    (listed : other ∈ (w.store.document.shelf (.own kind)).map Kind.nameOf) :
    other ∈ (after.store.document.shelf (.own kind)).map Kind.nameOf := by
  obtain ⟨-, -, -, left⟩ := delete_spec orderly steady deleted
  obtain ⟨item, own, rfl⟩ := List.mem_map.mp listed
  rw [Document.shelf_own, List.mem_filter] at own
  refine List.mem_map.mpr ⟨item, ?_, rfl⟩
  rw [Document.shelf_own, left]
  simp [own, different]

/-- Resources that are listed can all be deleted by their names. -/
theorem exists_deleteAll {names : List String} (orderly : w.store.document.Orderly)
    (steady : w.Steady) (writable : w.Writable) (distinct : names.Nodup)
    (listed : ∀ name ∈ names, name ∈ (w.store.document.shelf (.own kind)).map Kind.nameOf) :
    ∃ after, (deleteAll (service now) kind names).run w = (.ok (), after) := by
  induction names generalizing w with
  | nil => exact ⟨w, rfl⟩
  | cons name names ih =>
    obtain ⟨isNew, distinct⟩ := List.nodup_cons.mp distinct
    obtain ⟨between, deleted⟩ := exists_delete (listed name List.mem_cons_self) writable
    have still := fun other (member : other ∈ names) =>
      listed_of_delete orderly steady deleted (fun same => isNew (same ▸ member))
        (listed other (List.mem_cons_of_mem name member))
    obtain ⟨orderly, steady, writable, -⟩ := delete_spec orderly steady deleted
    obtain ⟨after, rest⟩ := ih orderly steady writable distinct still
    exact ⟨after, by rw [deleteAll, run_bind, deleted]; exact rest⟩

/-- **Deleting name by name is one filter**: what is left are the resources with other names, in
their order. Each deletion is a new look at what the ones before have left, which is orderly too. -/
theorem document_deleteAll {names : List String} (orderly : w.store.document.Orderly)
    (deleted : (deleteAll (service now) kind names).run w = (.ok (), after)) :
    after.store.document = w.store.document.withItems kind
      ((w.store.document.items kind).filter fun item => !decide (Kind.nameOf item ∈ names)) := by
  induction names generalizing w with
  | nil =>
    cases deleted
    simp
  | cons name names ih =>
    rw [deleteAll, run_bind] at deleted
    split at deleted
    next between first =>
      obtain ⟨item, listed, own, rfl, disk, -, rfl⟩ := delete_eq_ok first
      have rest : after.store.document =
          (w.store.document.remove kind (Kind.id item)).withItems kind
            (((w.store.document.remove kind (Kind.id item)).items kind).filter fun other =>
              !decide (Kind.nameOf other ∈ names)) :=
        ih (orderly.remove kind (Kind.id item)) deleted
      rw [rest, orderly.remove_eq listed own, Document.items_withItems,
        Document.withItems_withItems, List.filter_filter]
      refine congrArg _ (List.filter_congr fun other _ => ?_)
      rw [Bool.and_comm]
      simp
    next => cases deleted

/-- A resource that does not go by the name is not deleted. -/
theorem mem_items_delete (orderly : w.store.document.Orderly) {other : Kind} {item : other.Item}
    (there : item ∈ w.store.document.items other)
    (spared : ¬ (kind = other ∧ Kind.nameOf item = name)) :
    item ∈ ((delete (service now) kind name).run w).2.store.document.items other := by
  rcases done : (delete (service now) kind name).run w with ⟨_ | _, after⟩
  · rwa [eq_of_delete_error done]
  · obtain ⟨gone, listed, own, rfl, disk, -, rfl⟩ := delete_eq_ok done
    change item ∈ (w.store.document.remove kind (Kind.id gone)).items other
    by_cases same : kind = other
    · subst same
      rw [orderly.items_remove listed own]
      simpa [there] using spared
    · rwa [Document.items_remove_of_ne _ (Ne.symm same)]

/-- What deleting by id keeps, deleting by name keeps. -/
theorem delete_keeps (now : Instant) {P : Workspace → Prop} (kind : Kind)
    (deleted : ∀ w id, P w → P (w.delete kind id).2) (name : String) (holds : P w) :
    P ((delete (service now) kind name).run w).2 := by
  rw [run_delete_named]
  split
  · exact deleted w _ holds
  · exact holds

theorem deleteAll_keeps {P : Workspace → Prop} {names : List String}
    (deleted : ∀ w, ∀ name ∈ names, P w → P ((delete (service now) kind name).run w).2)
    (holds : P w) : P ((deleteAll (service now) kind names).run w).2 := by
  induction names generalizing w with
  | nil => exact holds
  | cons name names ih =>
    have holds := deleted w name List.mem_cons_self holds
    have rest := fun w other (member : other ∈ names) =>
      deleted w other (List.mem_cons_of_mem name member)
    rw [deleteAll, run_bind]
    split
    next between done =>
      rw [done] at holds
      exact ih rest holds
    next done =>
      rw [done] at holds
      exact holds

end Uncached

/-! ### Plans -/

inductive Plan where
  | create (kind : Kind) (item : kind.Item)
  /-- Deletes the private platform of the new one's name first. -/
  | replace (platform : Platform)
  | delete (kind : Kind) (names : List String)

namespace Plan

/-- The resource that a plan makes. -/
def made : Plan → Option (Σ kind : Kind, kind.Item)
  | .create kind item => some ⟨kind, item⟩
  | .replace platform => some ⟨.platform, platform⟩
  | .delete _ _ => none

/-- The kind of the resources that a plan changes. -/
def kind : Plan → Kind
  | .create kind _ | .delete kind _ => kind
  | .replace _ => .platform

/-- The names of the resources that a plan takes out. -/
def taken : Plan → List String
  | .create _ _ => []
  | .replace platform => [platform.name]
  | .delete _ names => names

theorem kind_of_made {plan : Plan} {made : Σ kind : Kind, kind.Item} (isMade : made ∈ plan.made) :
    made.1 = plan.kind := by
  cases plan <;> cases isMade <;> rfl

/-- A plan of several changes has been made from what the document holds. -/
def Fits (doc : Document) : Plan → Prop
  | .create _ _ => True
  | .replace platform => platform.name ∈ (doc.shelf (.own .platform)).map Platform.name
  | .delete kind names =>
    (∃ name, names = [name]) ∨ names.Sublist ((doc.shelf (.own kind)).map Kind.nameOf)

variable (now : Instant)

/-- Makes the changes of a plan one after the other, up to the first that fails. -/
def carryOut : Plan → ExceptT TrafficError (StateM Workspace) Unit
  | .create kind item => do
    let _ ← (service now).create kind item
    pure ()
  | .replace platform => do
    Uncached.delete (service now) .platform platform.name
    let _ ← (service now).create .platform platform
    pure ()
  | .delete kind names => Uncached.deleteAll (service now) kind names

variable {now} {w after : Workspace}

theorem run_carryOut_create {kind : Kind} {item : kind.Item} :
    ((create kind item).carryOut now).run w =
      ((w.create now item).1.map fun _ => (), (w.create now item).2) := by
  simp only [carryOut, run_bind, run_create, run_pure]
  rcases w.create now item with ⟨_ | _, _⟩ <;> rfl

theorem create_of_carryOut {kind : Kind} {item : kind.Item}
    (done : ((create kind item).carryOut now).run w = (.ok (), after)) :
    ∃ stored, w.create now item = (.ok stored, after) := by
  rw [run_carryOut_create] at done
  rcases created : w.create now item with ⟨_ | stored, last⟩ <;> rw [created] at done <;> cases done
  exact ⟨stored, rfl⟩

theorem run_carryOut_replace {platform : Platform} :
    ((replace platform).carryOut now).run w =
      match (Uncached.delete (service now) .platform platform.name).run w with
      | (.ok (), between) => ((create .platform platform).carryOut now).run between
      | (.error e, between) => (.error e, between) := by
  conv_lhs => rw [carryOut, run_bind]
  rcases (Uncached.delete (service now) .platform platform.name).run w with ⟨_ | _, _⟩ <;> rfl

/-- A resource with a new name that finds what it needs can be created if the store can be
written. -/
theorem exists_create (now : Instant) {kind : Kind} {item : kind.Item} (writable : w.Writable)
    (new : ∀ other ∈ w.store.document.items kind, Kind.nameOf other ≠ Kind.nameOf item)
    (checked : w.store.document.check item = .ok ()) :
    ∃ stored after, w.create now item = (.ok stored, after) := by
  obtain ⟨disk, saved⟩ := writable
    (w.store.document.add (Document.asStored now w.store.document.freeId item))
  have created : w.store.document.create now item = .ok (_, _) :=
    Document.create_eq_ok_iff.mpr ⟨new, checked, rfl, rfl⟩
  exact ⟨_, _, Workspace.create_eq_ok_iff.mpr ⟨disk, created, saved, rfl⟩⟩

/-- **A plan that fails changes nothing.** -/
theorem eq_of_carryOut_error {plan : Plan} {e : TrafficError} (orderly : w.store.document.Orderly)
    (steady : w.Steady) (fits : plan.Fits w.store.document)
    (failed : (plan.carryOut now).run w = (.error e, after)) : after = w := by
  cases plan with
  | create kind item =>
    rw [run_carryOut_create] at failed
    rcases created : w.create now item with ⟨_ | stored, last⟩ <;> rw [created] at failed <;>
      cases failed
    exact Workspace.eq_of_create_error created
  | replace platform =>
    rw [run_carryOut_replace] at failed
    split at failed
    next between deleted =>
      -- the platform that is gone was the only one with the name
      obtain ⟨-, -, writable, left⟩ := Uncached.delete_spec orderly steady deleted
      have new : ∀ other ∈ between.store.document.items .platform,
          Kind.nameOf other ≠ platform.name := by
        rw [left]
        intro other member
        simpa using (List.mem_filter.mp member).2
      obtain ⟨stored, last, created⟩ := exists_create now writable new rfl
      rw [run_carryOut_create, created] at failed
      cases failed
    next deleted =>
      cases failed
      exact Uncached.eq_of_delete_error deleted
  | delete kind names =>
    cases names with
    | nil => cases failed
    | cons name names =>
      rw [carryOut, Uncached.deleteAll, run_bind] at failed
      split at failed
      next between deleted =>
        rcases fits with ⟨_, single⟩ | listed
        · cases single
          cases failed
        · have distinct : (name :: names).Nodup := (orderly.shelf_names kind).sublist listed
          obtain ⟨isNew, distinct⟩ := List.nodup_cons.mp distinct
          have still := fun other (member : other ∈ names) =>
            Uncached.listed_of_delete orderly steady deleted (fun same => isNew (same ▸ member))
              (listed.subset (List.mem_cons_of_mem name member))
          obtain ⟨orderly, steady, writable, -⟩ := Uncached.delete_spec orderly steady deleted
          obtain ⟨last, rest⟩ := Uncached.exists_deleteAll orderly steady writable distinct still
          rw [rest] at failed
          cases failed
      next deleted =>
        cases failed
        exact Uncached.eq_of_delete_error deleted

/-- What every change of a plan keeps, the plan keeps, also if it fails. -/
theorem carryOut_invariant {P : Workspace → Prop} (plan : Plan)
    (created : ∀ made ∈ plan.made, ∀ w, P w → P (w.create now made.2).2)
    (deleted : ∀ w, ∀ name ∈ plan.taken, P w →
      P ((Uncached.delete (service now) plan.kind name).run w).2) {w : Workspace} (holds : P w) :
    P ((plan.carryOut now).run w).2 := by
  cases plan with
  | create kind item =>
    rw [run_carryOut_create]
    exact created ⟨kind, item⟩ rfl w holds
  | replace platform =>
    have holds := deleted w platform.name List.mem_cons_self holds
    rw [run_carryOut_replace]
    split
    next between done =>
      rw [kind, done] at holds
      rw [run_carryOut_create]
      exact created ⟨.platform, platform⟩ rfl between holds
    next done =>
      rw [kind, done] at holds
      exact holds
  | delete kind names => exact Uncached.deleteAll_keeps deleted holds

/-- What creating and deleting any resource keep, a plan keeps. -/
theorem carryOut_keeps {P : Workspace → Prop} (plan : Plan)
    (created : ∀ made ∈ plan.made, ∀ w, P w → P (w.create now made.2).2)
    (deleted : ∀ w kind id, P w → P (w.delete kind id).2) {w : Workspace} (holds : P w) :
    P ((plan.carryOut now).run w).2 :=
  plan.carryOut_invariant created
    (fun _ name _ => Uncached.delete_keeps now plan.kind (fun w => deleted w plan.kind) name) holds

/-- Plans keep documents orderly. -/
theorem orderly_carryOut (plan : Plan) {w : Workspace} (orderly : w.store.document.Orderly) :
    ((plan.carryOut now).run w).2.store.document.Orderly := by
  refine plan.carryOut_keeps (P := fun w => w.store.document.Orderly) ?_ ?_ orderly
  · exact fun made _ w orderly => Workspace.orderly_create orderly
  · exact fun w kind id orderly => Workspace.orderly_delete orderly

/-- A plan changes the resources of its kind only. -/
theorem items_carryOut_of_ne (plan : Plan) {other : Kind} (apart : other ≠ plan.kind)
    (w : Workspace) :
    ((plan.carryOut now).run w).2.store.document.items other = w.store.document.items other := by
  refine plan.carryOut_invariant
    (P := fun v => v.store.document.items other = w.store.document.items other) ?_ ?_ rfl
  · intro made isMade v same
    refine Workspace.create_keeps (P := fun doc => doc.items other = _) same fun _ => ?_
    rw [Document.items_add_of_ne _ (kind_of_made isMade ▸ apart), same]
  · refine fun v name _ => Uncached.delete_keeps now
      (P := fun v => v.store.document.items other = w.store.document.items other) plan.kind
      (fun v id same => ?_) name
    refine Workspace.delete_keeps (P := fun doc => doc.items other = _) same ?_
    rw [Document.items_remove_of_ne _ apart, same]

/-- What a plan makes is the user's own, and only what is can be deleted. -/
theorem community_carryOut (plan : Plan) (w : Workspace) :
    ((plan.carryOut now).run w).2.store.document.shelf .community =
      w.store.document.shelf .community := by
  refine plan.carryOut_keeps (P := fun v =>
    v.store.document.shelf .community = w.store.document.shelf .community) ?_ ?_ rfl
  · intro made _ v same
    refine Workspace.create_keeps (P := fun doc => doc.shelf .community = _) same fun _ => ?_
    rw [Document.shelf_add_of_ne _ (Document.deletable_asStored _ _ _) (by simp), same]
  · intro v kind id same
    refine Workspace.delete_keeps (P := fun doc => doc.shelf .community = _) same ?_
    rw [Document.shelf_remove_of_ne _ _ (by simp), same]

/-- A resource that a plan does not take out is still there. -/
theorem mem_items_carryOut (plan : Plan) (orderly : w.store.document.Orderly) {kind : Kind}
    {item : kind.Item} (there : item ∈ w.store.document.items kind)
    (spared : ¬ (plan.kind = kind ∧ Kind.nameOf item ∈ plan.taken)) :
    item ∈ ((plan.carryOut now).run w).2.store.document.items kind := by
  refine (plan.carryOut_invariant
    (P := fun v => v.store.document.Orderly ∧ item ∈ v.store.document.items kind) ?_ ?_
    ⟨orderly, there⟩).2
  · rintro made - v ⟨orderly, there⟩
    refine ⟨Workspace.orderly_create orderly, ?_⟩
    exact Workspace.create_keeps (P := fun doc => item ∈ doc.items kind) there fun _ =>
      Document.mem_items_add_of_mem there
  · rintro v name member ⟨orderly, there⟩
    refine ⟨Uncached.delete_keeps now (P := fun v => v.store.document.Orderly) plan.kind
      (fun _ _ => Workspace.orderly_delete) name orderly,
      Uncached.mem_items_delete orderly there ?_⟩
    rintro ⟨same, rfl⟩
    exact spared ⟨same, member⟩

end Plan

end Steering.Store
