import Mathlib.Algebra.Group.Nat.Defs
import Mathlib.Data.List.Nodup
import Steering.Json.Fields
import Steering.Proofs.Json.RoundTrip

/-!
# Records are read back

A record is written as an object whose keys are among the names of its fields, in their order. The
reader then finds each field that has been written, and a field that has been left out is one
without a value. In the other direction, what has been read satisfies what each reader makes sure
of.
-/

namespace Steering.Json

variable {α : Type}

/-! ### Looking up fields -/

theorem member?_append (members others : List (String × Json)) (key : String) :
    member? (members ++ others) key = (member? members key).or (member? others key) := by
  induction members with
  | nil => rfl
  | cons first members ih =>
    obtain ⟨k, v⟩ := first
    by_cases same : k = key
    · simp [member?, same]
    · simp only [List.cons_append, member?, same, if_false, ih]

theorem member?_member (name : String) (write : α → Json) (value : Option α) (key : String) :
    member? (member name write value) key = if name = key then value.map write else none := by
  cases value with
  | none => simp [member, member?]
  | some => rfl

/-- The keys of an object are among the field names, in their order. -/
def Keyed (names : List String) (members : List (String × Json)) : Prop :=
  (members.map (·.1)).Sublist names

namespace Keyed

variable {names : List String} {members : List (String × Json)} {name : String}

theorem nil : Keyed [] [] := List.Sublist.refl _

theorem cons {value : Json} (keyed : Keyed names members) :
    Keyed (name :: names) ((name, value) :: members) :=
  List.Sublist.cons_cons name keyed

theorem member {write : α → Json} {value : Option α} (keyed : Keyed names members) :
    Keyed (name :: names) (Json.member name write value ++ members) := by
  cases value with
  | none => exact List.Sublist.cons name keyed
  | some value => exact keyed.cons

theorem last {write : α → Json} {value : Option α} :
    Keyed [name] (Json.member name write value) := by
  have keyed : Keyed [name] (Json.member name write value ++ []) := nil.member
  rwa [List.append_nil] at keyed

end Keyed

/-- No field is given twice. -/
theorem fields?_object {names : List String} {members : List (String × Json)}
    (keyed : Keyed names members) (distinct : names.Nodup) :
    (Json.object members).fields? names = some members := by
  have once : ∀ name ∈ names, (members.filter (·.1 = name)).length ≤ 1 := by
    intro name _
    have single := List.nodup_iff_count_le_one.mp (distinct.sublist keyed) name
    rw [List.count, List.countP_map, List.countP_eq_length_filter] at single
    exact single
  simp only [fields?, List.all_eq_true, decide_eq_true_eq]
  exact if_pos once

/-- What an optional field is read as, from what has been found for it. -/
def valueOf (read : Json → Option α) : Option Json → Option (Option α)
  | none => some none
  | some .null => some none
  | some json => (read json).map some

theorem optional_eq (fields : List (String × Json)) (name : String) (read : Json → Option α) :
    optional fields name read = valueOf read (member? fields name) := by
  unfold optional
  cases member? fields name with
  | none => rfl
  | some json => cases json <;> rfl

theorem valueOf_map {read : Json → Option α} {write : α → Json} {value : Option α}
    (reads : ∀ x ∈ value, write x ≠ .null ∧ read (write x) = some x) :
    valueOf read (value.map write) = some value := by
  cases value with
  | none => rfl
  | some x =>
    obtain ⟨given, reads⟩ := reads x rfl
    rw [Option.map_some, valueOf, reads]
    · rfl
    · exact given

/-! ### Reading values -/

theorem asNat?_natural {bits n : Nat} (small : n < 2 ^ bits) :
    asNat? bits (.natural n) = some n := if_pos small

theorem asList?_map {read : Json → Option α} {write : α → Json} {items : List α}
    (reads : ∀ item ∈ items, read (write item) = some item) :
    asList? read (.array (items.map write)) = some items := by
  induction items with
  | nil => rfl
  | cons item items ih =>
    obtain ⟨first, others⟩ := List.forall_mem_cons.mp reads
    have rest : (items.map write).mapM read = some items := ih others
    rw [asList?, List.map_cons, List.mapM_cons, first, rest]
    rfl

theorem asList?_strings (items : List String) : asList? asString? (strings items) = some items :=
  asList?_map fun _ _ => rfl

theorem string_ne_null (s : String) : Json.string s ≠ .null := nofun

@[simp] theorem valueOf_string (value : Option String) :
    valueOf asString? (value.map .string) = some value :=
  valueOf_map fun _ _ => ⟨nofun, rfl⟩

@[simp] theorem valueOf_bool (value : Option Bool) :
    valueOf asBool? (value.map .bool) = some value :=
  valueOf_map fun _ _ => ⟨nofun, rfl⟩

theorem valueOf_natural {bits : Nat} {value : Option Nat} (small : ∀ n ∈ value, n < 2 ^ bits) :
    valueOf (asNat? bits) (value.map .natural) = some value :=
  valueOf_map fun n isN => ⟨nofun, asNat?_natural (small n isN)⟩

theorem asChoice?_name {all : List α} {name : α → String} {choice : α}
    (found : all.find? (fun other => name other = name choice) = some choice) :
    asChoice? all name (.string (name choice)) = some choice := found

/-! ### What has been read -/

theorem forall_of_required {P : α → Prop} {fields : List (String × Json)} {name : String}
    {read : Json → Option α} {value : α} (sound : ∀ json x, read json = some x → P x)
    (ok : required fields name read = some value) : P value := by
  obtain ⟨json, -, ok⟩ := Option.bind_eq_some_iff.mp ok
  exact sound json value ok

theorem forall_of_optional {P : α → Prop} {fields : List (String × Json)} {name : String}
    {read : Json → Option α} {value : Option α} (sound : ∀ json x, read json = some x → P x)
    (ok : optional fields name read = some value) : ∀ x ∈ value, P x := by
  rintro x rfl
  unfold optional at ok
  split at ok
  next => cases ok
  next => cases ok
  next =>
    obtain ⟨y, read, same⟩ := Option.map_eq_some_iff.mp ok
    cases same
    exact sound _ x read

theorem of_defaulted {P : α → Prop} {fields : List (String × Json)} {name : String} {default a : α}
    {read : Json → Option α} (holds : P default) (sound : ∀ json a, read json = some a → P a)
    (ok : defaulted fields name default read = some a) : P a := by
  unfold defaulted at ok
  split at ok
  · cases ok
    exact holds
  · exact sound _ a ok

theorem forall_of_defaulted {P : α → Prop} {fields : List (String × Json)} {name : String}
    {read : Json → Option (List α)} {items : List α}
    (sound : ∀ json xs, read json = some xs → ∀ x ∈ xs, P x)
    (ok : defaulted fields name [] read = some items) : ∀ x ∈ items, P x :=
  of_defaulted (P := fun xs => ∀ x ∈ xs, P x) (List.forall_mem_nil P) sound ok

theorem lt_of_asNat? {bits : Nat} : ∀ json n, asNat? bits json = some n → n < 2 ^ bits := by
  intro json n ok
  unfold asNat? at ok
  split at ok
  · split at ok
    next small =>
      cases ok
      exact small
    next => cases ok
  · cases ok

theorem lt_of_required {fields : List (String × Json)} {name : String} {bits n : Nat}
    (ok : required fields name (asNat? bits) = some n) : n < 2 ^ bits :=
  forall_of_required (P := fun n => n < 2 ^ bits) lt_of_asNat? ok

theorem forall_of_asList? {P : α → Prop} {read : Json → Option α}
    (sound : ∀ json x, read json = some x → P x) :
    ∀ json xs, asList? read json = some xs → ∀ x ∈ xs, P x := by
  intro json xs ok
  unfold asList? at ok
  split at ok
  next items =>
    induction items generalizing xs with
    | nil =>
      cases ok
      exact fun x member => absurd member List.not_mem_nil
    | cons item items ih =>
      rw [List.mapM_cons] at ok
      obtain ⟨first, isFirst, ok⟩ := Option.bind_eq_some_iff.mp ok
      obtain ⟨others, areOthers, same⟩ := Option.bind_eq_some_iff.mp ok
      cases same
      exact List.forall_mem_cons.mpr ⟨sound item first isFirst, ih others areOthers⟩
  next => cases ok

/-! ### Plain records -/

theorem plain_member {name : String} {write : α → Json} {value : Option α}
    (plain : ∀ x ∈ value, (write x).Plain) : ∀ m ∈ member name write value, m.2.Plain := by
  cases value with
  | none => exact fun _ there => absurd there List.not_mem_nil
  | some x =>
    intro m there
    cases List.mem_singleton.mp there
    exact plain x rfl

theorem plain_array_map {write : α → Json} {items : List α}
    (plain : ∀ item ∈ items, (write item).Plain) : (Json.array (items.map write)).Plain := by
  refine .array fun json there => ?_
  obtain ⟨item, member, rfl⟩ := List.mem_map.mp there
  exact plain item member

theorem plain_strings (items : List String) : (strings items).Plain :=
  plain_array_map fun item _ => .string item

end Steering.Json
