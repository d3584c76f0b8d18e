import Steering.Store.Catalog

/-!
# What a change does to a document

A document changes in two ways: a resource is added at the end of its kind (`Document.add`), or the
first resource with an id that may be deleted is taken out (`Document.remove`). The two inversions
`create_eq_ok_iff` and `delete_eq_ok_iff` say when that happens. A change of one kind leaves every
other shelf as it was; in particular nothing changes the community platforms.
-/

namespace Steering.Store

open Traffic

namespace Document

variable {kind : Kind}

/-! ### The resources of one kind -/

@[simp] theorem items_withItems (doc : Document) (kind : Kind) (items : List kind.Item) :
    (doc.withItems kind items).items kind = items := by
  cases kind <;> rfl

theorem items_withItems_of_ne (doc : Document) {kind other : Kind} (different : other ≠ kind)
    (items : List kind.Item) : (doc.withItems kind items).items other = doc.items other := by
  cases kind <;> cases other <;> first | rfl | exact absurd rfl different

@[simp] theorem nextId_withItems (doc : Document) (kind : Kind) (items : List kind.Item) :
    (doc.withItems kind items).nextId = doc.nextId := by
  cases kind <;> rfl

@[simp] theorem withItems_items (doc : Document) (kind : Kind) :
    doc.withItems kind (doc.items kind) = doc := by
  cases kind <;> rfl

@[simp] theorem withItems_withItems (doc : Document) (kind : Kind) (items more : List kind.Item) :
    (doc.withItems kind items).withItems kind more = doc.withItems kind more := by
  cases kind <;> rfl

/-- The user's own resources of a kind are those that may be deleted. -/
theorem shelf_own (doc : Document) (kind : Kind) :
    doc.shelf (.own kind) = (doc.items kind).filter deletable := by
  cases kind with
  | platform => rfl
  | alert | application | zone => exact (List.filter_eq_self.mpr fun _ _ => rfl).symm

theorem shelf_community (doc : Document) :
    doc.shelf .community = (doc.items .platform).filter fun p => !deletable p := by
  have same : (fun p : Platform => Scope.community.includes p.visibility) =
      fun p : Platform => !@deletable .platform p := by
    funext p
    cases visibility : p.visibility <;> simp [Scope.includes, deletable, visibility]
  simp only [shelf, items, same]

/-! ### Adding -/

/-- The document with one more resource, which has the free id. -/
def add (doc : Document) (item : kind.Item) : Document :=
  { doc.withItems kind (doc.items kind ++ [item]) with nextId := doc.freeId + 1 }

/-- A resource is added if its name is new among its kind and it finds what it needs. -/
theorem create_eq_ok_iff {now : Instant} {doc after : Document} {item stored : kind.Item} :
    doc.create now item = .ok (stored, after) ↔
      (∀ other ∈ doc.items kind, Kind.nameOf other ≠ Kind.nameOf item) ∧
        doc.check item = .ok () ∧ stored = asStored now doc.freeId item ∧
        after = doc.add stored := by
  unfold create
  split
  next taken =>
    obtain ⟨other, member, same⟩ := List.any_eq_true.mp taken
    have same : Kind.nameOf other = Kind.nameOf item := by simpa using same
    constructor
    · intro created
      cases created
    · intro ⟨new, _⟩
      exact absurd same (new other member)
  next free =>
    have new : ∀ other ∈ doc.items kind, Kind.nameOf other ≠ Kind.nameOf item := by
      simpa [List.any_eq_true] using free
    cases checked : doc.check item with
    | error e => simp
    | ok =>
      simp only [Except.ok.injEq, Prod.mk.injEq, add]
      constructor
      · rintro ⟨rfl, rfl⟩
        exact ⟨new, trivial, rfl, rfl⟩
      · rintro ⟨_, _, rfl, rfl⟩
        exact ⟨rfl, rfl⟩

@[simp] theorem deletable_asStored (now : Instant) (id : Nat) (item : kind.Item) :
    deletable (asStored now id item) = true := by
  cases kind <;> rfl

@[simp] theorem id_asStored (now : Instant) (id : Nat) (item : kind.Item) :
    Kind.id (asStored now id item) = id := by
  cases kind <;> rfl

@[simp] theorem nameOf_asStored (now : Instant) (id : Nat) (item : kind.Item) :
    Kind.nameOf (asStored now id item) = Kind.nameOf item := by
  cases kind <;> rfl

/-! ### Removing -/

/-- The resource goes by the id and may be deleted. -/
def doomed (id : Nat) (item : kind.Item) : Bool := Kind.id item = id && deletable item

/-- The document without the first resource that goes by the id and may be deleted. -/
def remove (doc : Document) (kind : Kind) (id : Nat) : Document :=
  doc.withItems kind ((doc.items kind).eraseP (doomed id))

theorem delete_eq_ok_iff {doc after : Document} {id : Nat} :
    doc.delete kind id = .ok after ↔
      (∃ item ∈ doc.items kind, doomed id item = true) ∧ after = doc.remove kind id := by
  have same : (fun item : kind.Item => Kind.id item = id && deletable item) = doomed id := rfl
  unfold delete
  simp only [same]
  split
  next there =>
    simp only [List.any_eq_true] at there
    simp only [Except.ok.injEq, there, true_and]
    exact eq_comm
  next missing =>
    simp only [List.any_eq_true] at missing
    simp [missing]

/-! ### Other kinds and shelves -/

@[simp] theorem items_add (doc : Document) (item : kind.Item) :
    (doc.add item).items kind = doc.items kind ++ [item] := by
  cases kind <;> rfl

theorem items_add_of_ne (doc : Document) {other : Kind} (different : other ≠ kind)
    (item : kind.Item) : (doc.add item).items other = doc.items other := by
  rw [← items_withItems_of_ne doc different (doc.items kind ++ [item])]
  cases other <;> rfl

@[simp] theorem items_remove (doc : Document) (kind : Kind) (id : Nat) :
    (doc.remove kind id).items kind = (doc.items kind).eraseP (doomed id) :=
  items_withItems doc kind _

theorem items_remove_of_ne (doc : Document) {kind other : Kind} (different : other ≠ kind)
    (id : Nat) : (doc.remove kind id).items other = doc.items other :=
  items_withItems_of_ne doc different _

/-- A shelf other than the own one of a kind holds what other kinds hold, or what may not be
deleted. -/
theorem shelf_eq_of_items {doc after : Document} {kind : Kind}
    (others : ∀ other ≠ kind, after.items other = doc.items other)
    (kept : ((after.items kind).filter fun item => !deletable item) =
      (doc.items kind).filter fun item => !deletable item)
    {shelf : Shelf} (different : shelf ≠ .own kind) : after.shelf shelf = doc.shelf shelf := by
  cases shelf with
  | own other =>
    have apart : other ≠ kind := fun same => different (congrArg Shelf.own same)
    rw [shelf_own, shelf_own, others other apart]
  | community =>
    rw [shelf_community, shelf_community]
    by_cases platforms : kind = .platform
    · subst platforms
      exact kept
    · rw [others .platform (Ne.symm platforms)]

/-- What is added to the own shelf of a kind is on no other. -/
theorem shelf_add_of_ne (doc : Document) {item : kind.Item} (own : deletable item = true)
    {shelf : Shelf} (different : shelf ≠ .own kind) :
    (doc.add item).shelf shelf = doc.shelf shelf := by
  refine shelf_eq_of_items (fun other apart => items_add_of_ne doc apart item) ?_ different
  simp [own]

/-- What is taken from the own shelf of a kind was on no other. -/
theorem shelf_remove_of_ne (doc : Document) (id : Nat) {shelf : Shelf}
    (different : shelf ≠ .own kind) : (doc.remove kind id).shelf shelf = doc.shelf shelf := by
  refine shelf_eq_of_items (fun other apart => items_remove_of_ne doc apart id) ?_ different
  rw [items_remove]
  generalize doc.items kind = items
  induction items with
  | nil => rfl
  | cons item rest ih =>
    by_cases gone : doomed id item = true
    · have own : deletable item = true := (Bool.and_eq_true_iff.mp gone).2
      simp [gone, own]
    · rw [List.eraseP_cons_of_neg gone, List.filter_cons, List.filter_cons, ih]

end Document

end Steering.Store
