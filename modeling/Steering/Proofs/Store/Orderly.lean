import Mathlib.Data.List.Nodup
import Mathlib.Order.Lattice
import Steering.Proofs.Store.Workspace

/-!
# Orderly documents

In an orderly document no two resources of a kind share a name or an id, and the counter is above
every id. The documents that stores begin with are orderly, and every change keeps them so. In an
orderly document an id that may be deleted stands for one resource, and so does a name: deleting by
id takes out exactly the resource that goes by the name.
-/

namespace Steering.Store

open Traffic

/-- Of the elements that satisfy `p` there is at most one, so that erasing the first of them erases
them all. -/
theorem eraseP_eq_filter {α : Type} {p q : α → Bool} {l : List α} (same : ∀ x ∈ l, p x = q x)
    (single : l.Pairwise fun a b => q a = true → q b = false) :
    l.eraseP p = l.filter fun x => !q x := by
  induction l with
  | nil => rfl
  | cons a rest ih =>
    obtain ⟨onlyOne, single⟩ := List.pairwise_cons.mp single
    have same' : ∀ x ∈ rest, p x = q x := fun x member => same x (List.mem_cons_of_mem a member)
    have here : p a = q a := same a List.mem_cons_self
    cases found : q a with
    | true =>
      rw [List.eraseP_cons_of_pos (by rw [here, found]), List.filter_cons_of_neg (by simp [found])]
      refine (List.filter_eq_self.mpr fun x member => ?_).symm
      simp [onlyOne x member found]
    | false =>
      rw [List.eraseP_cons_of_neg (by simp [here, found]),
        List.filter_cons_of_pos (by simp [found]), ih same' single]

namespace Document

variable {kind : Kind} {doc : Document}

/-- Names and ids are each one resource's among those of its kind, and the counter is above every
id. -/
structure Orderly (doc : Document) : Prop where
  names : ∀ kind, ((doc.items kind).map Kind.nameOf).Nodup
  ids : ∀ kind, ((doc.items kind).map Kind.id).Nodup
  counted : ∀ kind, ∀ item ∈ doc.items kind, Kind.id item < doc.nextId

theorem orderly_empty : Orderly {} where
  names kind := by cases kind <;> exact List.nodup_nil
  ids kind := by cases kind <;> exact List.nodup_nil
  counted kind := by cases kind <;> exact fun _ member => absurd member List.not_mem_nil

theorem orderly_seed : seed.Orderly where
  names kind := by cases kind <;> decide
  ids kind := by cases kind <;> decide
  counted kind := by cases kind <;> decide

theorem nextId_le_freeId (doc : Document) : doc.nextId ≤ doc.freeId := Nat.le_max_left _ _

@[simp] theorem nextId_remove (doc : Document) (kind : Kind) (id : Nat) :
    (doc.remove kind id).nextId = doc.nextId :=
  nextId_withItems doc kind _

theorem mem_items_add {item : kind.Item} {other : Kind} {found : other.Item}
    (member : found ∈ (doc.add item).items other) :
    found ∈ doc.items other ∨ (⟨other, found⟩ : Σ kind : Kind, kind.Item) = ⟨kind, item⟩ := by
  by_cases same : other = kind
  · subst same
    rw [items_add, List.mem_append, List.mem_singleton] at member
    exact member.imp_right fun equal => by rw [equal]
  · rw [items_add_of_ne doc same] at member
    exact .inl member

theorem mem_items_add_of_mem {item : kind.Item} {other : Kind} {found : other.Item}
    (there : found ∈ doc.items other) : found ∈ (doc.add item).items other := by
  by_cases same : other = kind
  · subst same
    rw [items_add]
    exact List.mem_append_left _ there
  · rwa [items_add_of_ne doc same]

theorem items_remove_sublist (doc : Document) (kind other : Kind) (id : Nat) :
    ((doc.remove kind id).items other).Sublist (doc.items other) := by
  by_cases same : other = kind
  · subst same
    rw [items_remove]
    exact List.eraseP_sublist
  · rw [items_remove_of_ne doc same]

/-- What holds of every resource holds of every resource of a larger document if it holds of the
new one. -/
theorem forall_items_add {P : {kind : Kind} → kind.Item → Prop}
    (holds : ∀ kind, ∀ item ∈ doc.items kind, P item) {item : kind.Item} (new : P item) :
    ∀ other, ∀ found ∈ (doc.add item).items other, P found := by
  intro other found member
  rcases mem_items_add member with old | same
  · exact holds other found old
  · cases same
    exact new

theorem forall_items_remove {P : {kind : Kind} → kind.Item → Prop}
    (holds : ∀ kind, ∀ item ∈ doc.items kind, P item) (kind : Kind) (id : Nat) :
    ∀ other, ∀ item ∈ (doc.remove kind id).items other, P item :=
  fun other item member => holds other item ((doc.items_remove_sublist kind other id).subset member)

/-! ### The counter -/

/-- The counter is above every id. -/
def Counted (doc : Document) : Prop := ∀ kind, ∀ item ∈ doc.items kind, Kind.id item < doc.nextId

theorem Counted.lt_freeId (counted : doc.Counted) {item : kind.Item}
    (listed : item ∈ doc.items kind) : Kind.id item < doc.freeId :=
  (counted kind item listed).trans_le doc.nextId_le_freeId

theorem Counted.add (counted : doc.Counted) {item : kind.Item} (free : Kind.id item = doc.freeId) :
    (doc.add item).Counted := by
  have old : ∀ kind, ∀ item ∈ doc.items kind, Kind.id item < doc.freeId + 1 :=
    fun kind item listed => (counted.lt_freeId listed).trans (Nat.lt_succ_self _)
  exact forall_items_add (P := fun item => Kind.id item < doc.freeId + 1) old
    (Nat.lt_succ_of_le free.le)

theorem Counted.remove (counted : doc.Counted) (kind : Kind) (id : Nat) :
    (doc.remove kind id).Counted := by
  rw [Counted, nextId_remove]
  exact forall_items_remove (P := fun item => Kind.id item < doc.nextId) counted kind id

/-! ### Names -/

theorem nodup_names_add {other : Kind} (distinct : ((doc.items other).map Kind.nameOf).Nodup)
    {item : kind.Item} (new : ∀ found ∈ doc.items kind, Kind.nameOf found ≠ Kind.nameOf item) :
    (((doc.add item).items other).map Kind.nameOf).Nodup := by
  by_cases same : other = kind
  · subst same
    rw [items_add, List.map_append, List.map_singleton, List.nodup_append]
    exact ⟨distinct, List.nodup_singleton _, by simpa using new⟩
  · rwa [items_add_of_ne doc same]

theorem nodup_names_remove {other : Kind} (distinct : ((doc.items other).map Kind.nameOf).Nodup)
    (kind : Kind) (id : Nat) : (((doc.remove kind id).items other).map Kind.nameOf).Nodup :=
  distinct.sublist ((doc.items_remove_sublist kind other id).map _)

/-! ### Orderly documents -/

/-- A resource with a new name and the free id may be added. -/
theorem Orderly.add (orderly : doc.Orderly) {item : kind.Item}
    (new : ∀ other ∈ doc.items kind, Kind.nameOf other ≠ Kind.nameOf item)
    (free : Kind.id item = doc.freeId) : (doc.add item).Orderly where
  names other := nodup_names_add (orderly.names other) new
  ids other := by
    by_cases same : other = kind
    · subst same
      rw [items_add, List.map_append, List.map_singleton, List.nodup_append]
      refine ⟨orderly.ids _, List.nodup_singleton _, ?_⟩
      simpa [free] using fun other member => (Counted.lt_freeId orderly.counted member).ne
    · rw [items_add_of_ne doc same]
      exact orderly.ids other
  counted := Counted.add orderly.counted free

/-- What is left of an orderly document is orderly. -/
theorem Orderly.remove (orderly : doc.Orderly) (kind : Kind) (id : Nat) :
    (doc.remove kind id).Orderly where
  names other := nodup_names_remove (orderly.names other) kind id
  ids other := (orderly.ids other).sublist ((doc.items_remove_sublist kind other id).map _)
  counted := Counted.remove orderly.counted kind id

/-- Deleting a resource of an orderly document by its id deletes what goes by its name. -/
theorem Orderly.items_remove (orderly : doc.Orderly) {item : kind.Item}
    (listed : item ∈ doc.items kind) (own : deletable item = true) :
    (doc.remove kind (Kind.id item)).items kind =
      (doc.items kind).filter fun other => !decide (Kind.nameOf other = Kind.nameOf item) := by
  rw [Document.items_remove]
  refine eraseP_eq_filter (fun other member => ?_) ?_
  · by_cases same : other = item
    · simp [same, doomed, own]
    · have byName : Kind.nameOf other ≠ Kind.nameOf item := fun equal =>
        same (List.inj_on_of_nodup_map (orderly.names kind) member listed equal)
      have byId : Kind.id other ≠ Kind.id item := fun equal =>
        same (List.inj_on_of_nodup_map (orderly.ids kind) member listed equal)
      simp [doomed, byName, byId]
  · refine (List.pairwise_map.mp (orderly.names kind)).imp ?_
    intro a b different first
    simp only [decide_eq_true_eq] at first
    simpa [← first] using different.symm

/-- Deleting by id takes out what goes by the name, and leaves all else as it was. -/
theorem Orderly.remove_eq (orderly : doc.Orderly) {item : kind.Item}
    (listed : item ∈ doc.items kind) (own : deletable item = true) :
    doc.remove kind (Kind.id item) = doc.withItems kind
      ((doc.items kind).filter fun other => !decide (Kind.nameOf other = Kind.nameOf item)) := by
  rw [← orderly.items_remove listed own, Document.items_remove, Document.remove]

theorem Orderly.shelf_names (orderly : doc.Orderly) (kind : Kind) :
    ((doc.shelf (.own kind)).map Kind.nameOf).Nodup := by
  rw [Document.shelf_own]
  exact (orderly.names kind).sublist (List.filter_sublist.map _)

end Document

end Steering.Store

namespace Steering.Workspace

open Store Traffic

variable {kind : Kind} {w : Workspace}

/-- Creating keeps a document orderly, whether or not it succeeds. -/
theorem orderly_create {now : Instant} {item : kind.Item} (orderly : w.store.document.Orderly) :
    (w.create now item).2.store.document.Orderly :=
  create_keeps orderly fun new => orderly.add (by simpa using new) (Document.id_asStored now _ item)

theorem orderly_delete {id : Nat} (orderly : w.store.document.Orderly) :
    (w.delete kind id).2.store.document.Orderly :=
  delete_keeps orderly (orderly.remove kind id)

/-- Creating and deleting never lower the counter. -/
theorem nextId_le_create {now : Instant} {item : kind.Item} :
    w.store.document.nextId ≤ (w.create now item).2.store.document.nextId :=
  create_keeps (P := fun doc => w.store.document.nextId ≤ doc.nextId) (Nat.le_refl _)
    fun _ => w.store.document.nextId_le_freeId.trans (Nat.le_succ _)

theorem nextId_le_delete {id : Nat} :
    w.store.document.nextId ≤ (w.delete kind id).2.store.document.nextId :=
  delete_keeps (P := fun doc => w.store.document.nextId ≤ doc.nextId) (Nat.le_refl _)
    (Document.nextId_remove w.store.document kind id).ge

end Steering.Workspace
