import Mathlib.Data.Multiset.ZeroCons
import Steering.Proofs.Store.Plan

/-!
# What deleting by name takes out

A catalog looks a name up and passes the id that it has found on to the store, which takes out the
first of the user's resources with that id. In an orderly document that is the resource that was
found. A state file may hold any ids, though, and the same one twice: loading raises the counter
above them and asks no more.

`delete_by_name` says what is taken out over any document: one resource, and it goes by the name
exactly if the first resource with the id does. If the user's resources of the kind have different
ids it always does. `delete_by_name_twins` is a state file for which it does not.
-/

namespace Steering.Store

open Traffic

namespace Document

variable {kind : Kind} {doc next : Document}

/-- The next document lacks the resource, and is the same in everything else. -/
def LosesItem (doc : Document) (item : kind.Item) (next : Document) : Prop :=
  ∃ before after, doc.items kind = before ++ item :: after ∧
    next = doc.withItems kind (before ++ after)

/-- Two documents do not differ by one resource and by another one. -/
theorem LosesItem.unique {item other : kind.Item} (loses : doc.LosesItem item next)
    (losesOther : doc.LosesItem other next) : item = other := by
  obtain ⟨before, after, whole, left⟩ := loses
  obtain ⟨before', after', whole', left'⟩ := losesOther
  have sameRest : before ++ after = before' ++ after' := by
    rw [← items_withItems doc kind (before ++ after), ← left, left', items_withItems]
  have sameWhole : (item :: (before ++ after)).Perm (other :: (before ++ after)) := calc
    (item :: (before ++ after)).Perm (before ++ item :: after) := List.perm_middle.symm
    _ = before' ++ other :: after' := whole.symm.trans whole'
    List.Perm _ (other :: (before' ++ after')) := List.perm_middle
    _ = other :: (before ++ after) := by rw [sameRest]
  have both : item ::ₘ (before ++ after : Multiset kind.Item) = other ::ₘ ↑(before ++ after) :=
    Multiset.coe_eq_coe.mpr sameWhole
  exact (Multiset.cons_inj_left _).mp both

/-- The user's resource that deleting by id takes out is the first one with the id. -/
theorem loses_of_delete {id : Nat} (deleted : doc.delete kind id = .ok next) :
    ∃ gone : kind.Item, (doc.shelf (.own kind)).find? (fun item => Kind.id item = id) = some gone ∧
      doc.LosesItem gone next := by
  obtain ⟨⟨item, listed, isDoomed⟩, rfl⟩ := delete_eq_ok_iff.mp deleted
  obtain ⟨gone, before, after, spared, goneDoomed, whole, rest⟩ :=
    List.exists_of_eraseP listed isDoomed
  refine ⟨gone, ?_, before, after, whole, by rw [remove, rest]⟩
  have same : (fun item : kind.Item => decide (deletable item = true ∧
      decide (Kind.id item = id) = true)) = doomed id := by
    funext item
    simp [doomed, Bool.and_comm]
  rw [shelf_own, List.find?_filter, same, List.find?_eq_some_iff_append]
  exact ⟨goneDoomed, before, after, whole, fun other member => by simpa using spared other member⟩

end Document

variable {now : Instant} {kind : Kind} {name : String} {catalog after : Catalog Workspace}

/-- **Deleting by name takes out the first resource with the id that the name leads to**, and
nothing else. So the document has lost a resource of that name exactly if the one that is gone has
it. If the user's resources of the kind have different ids, it has. -/
theorem delete_by_name (coherent : catalog.Coherent)
    (deleted : (Catalog.delete (service now) kind name).run catalog = (.ok (), after)) :
    ∃ item gone : kind.Item,
      (catalog.document.shelf (.own kind)).find? (fun other => Kind.nameOf other = name) =
        some item ∧
      (catalog.document.shelf (.own kind)).find? (fun other => Kind.id other = Kind.id item) =
        some gone ∧
      catalog.document.LosesItem gone after.document ∧
      ((∃ other : kind.Item, Document.deletable other = true ∧ Kind.nameOf other = name ∧
        catalog.document.LosesItem other after.document) ↔ Kind.nameOf gone = name) ∧
      (((catalog.document.shelf (.own kind)).map Kind.id).Nodup → Kind.nameOf gone = name) := by
  obtain ⟨result, backend, -⟩ := Implements.delete now kind name catalog coherent
  rw [deleted, Uncached.run_delete_named] at result backend
  cases found : Catalog.named name (catalog.backend.store.document.shelf (.own kind)) with
  | error e => simp [found] at result
  | ok item =>
    rw [found] at result backend
    have run : catalog.backend.delete kind (Kind.id item) = (.ok (), after.backend) :=
      Prod.ext result.symm backend.symm
    obtain ⟨disk, smaller, -, kept⟩ := Workspace.delete_eq_ok_iff.mp run
    obtain ⟨gone, first, loses⟩ := Document.loses_of_delete smaller
    have left : catalog.backend.store.document.remove kind (Kind.id item) = after.document := by
      rw [Catalog.document, kept]
      rfl
    rw [left] at loses
    obtain ⟨itemOwn, named⟩ := Catalog.named_eq_ok found
    have goneOwn := List.mem_of_find?_eq_some first
    refine ⟨item, gone, Catalog.named_eq_ok_iff.mp found, first, loses, ?_, fun distinct => ?_⟩
    · constructor
      · -- What is left tells which resource is gone.
        rintro ⟨other, -, rfl, losesOther⟩
        rw [loses.unique losesOther]
      · intro goneNamed
        rw [Document.shelf_own, List.mem_filter] at goneOwn
        exact ⟨gone, goneOwn.2, goneNamed, loses⟩
    · have sameId : Kind.id gone = Kind.id item := by simpa using List.find?_some first
      rw [List.inj_on_of_nodup_map distinct goneOwn itemOwn sameId, named]

/-- A state file with three zones, two of them under one id. -/
def twins : Disk where
  files := [(Path.ofText "state.json", .text ("\x7b\"zones\": [" ++
    "\x7b\"id\": 5, \"domainName\": \"a.example\"\x7d, " ++
    "\x7b\"id\": 5, \"domainName\": \"b.example\"\x7d, " ++
    "\x7b\"id\": 6, \"domainName\": \"c.example\"\x7d]\x7d"))]

/-- The store that is loaded from it. -/
def twinStore : Store where
  path := some "state.json"
  document := {
    nextId := 7
    zones := [{ id := 5, domainName := "a.example" }, { id := 5, domainName := "b.example" },
      { id := 6, domainName := "c.example" }] }

theorem load_twins : load twins "state.json" = .ok twinStore := by decide +kernel

/-- A catalog over the store, with nothing fetched yet. -/
def twinCatalog : Catalog Workspace := { backend := { disk := twins, store := twinStore } }

/-- The zone that has an id for itself is deleted by its name. -/
theorem delete_by_name_single :
    load twins "state.json" = .ok twinStore ∧ ∃ after,
      (Catalog.delete (service default) .zone "c.example").run twinCatalog = (.ok (), after) ∧
      ∃ gone : Zone, gone.domainName = "c.example" ∧
        @Document.LosesItem .zone twinStore.document gone after.document := by
  have ran : ((Catalog.delete (service default) .zone "c.example").run twinCatalog).1 = .ok () := by
    decide +kernel
  obtain ⟨item, gone, named, first, loses, -⟩ :=
    delete_by_name (Catalog.coherent_new _) (Prod.ext ran rfl)
  have isNamed : item = { id := 6, domainName := "c.example" } :=
    Option.some.inj (named.symm.trans (by decide +kernel))
  subst isNamed
  have isFirst : gone = { id := 6, domainName := "c.example" } :=
    Option.some.inj (first.symm.trans (by decide +kernel))
  exact ⟨load_twins, _, Prod.ext ran rfl, gone, by rw [isFirst], loses⟩

/-- Of the two zones under one id the first is gone, though the other was named. -/
theorem delete_by_name_twins :
    load twins "state.json" = .ok twinStore ∧ ∃ after,
      (Catalog.delete (service default) .zone "b.example").run twinCatalog = (.ok (), after) ∧
      ¬ ∃ other : Zone, @Document.deletable .zone other = true ∧ other.domainName = "b.example" ∧
        @Document.LosesItem .zone twinStore.document other after.document := by
  obtain ⟨ran, left⟩ :
      ((Catalog.delete (service default) .zone "b.example").run twinCatalog).1 = .ok () ∧
      ((Catalog.delete (service default) .zone "b.example").run twinCatalog).2.document =
        { twinStore.document with
          zones := [{ id := 5, domainName := "b.example" },
            { id := 6, domainName := "c.example" }] } := by
    decide +kernel
  have losesFirst : @Document.LosesItem .zone twinStore.document
      { id := 5, domainName := "a.example" }
      ((Catalog.delete (service default) .zone "b.example").run twinCatalog).2.document :=
    ⟨[], _, rfl, left⟩
  refine ⟨load_twins, _, Prod.ext ran rfl, ?_⟩
  rintro ⟨other, -, named, loses⟩
  rw [← losesFirst.unique loses] at named
  exact absurd named (by decide)

end Steering.Store
