import Steering.Proofs.Instant
import Steering.Proofs.Json.Record
import Steering.Traffic.Item

/-!
# Resources as JSON

A resource *fits* a state file if its numbers are in the ranges of their fields and its instants
exist. A resource that fits is read back from its JSON value, with nothing lost, and every resource
that has been read fits.
-/

namespace Steering.Traffic

open Json

/-! ### Health checks -/

namespace Sonar

def Fits (s : Sonar) : Prop :=
  (∀ n ∈ s.pollIntervalSeconds, n < 2 ^ 32) ∧ ∀ n ∈ s.timeoutSeconds, n < 2 ^ 32

theorem nodup_fieldNames : fieldNames.Nodup := by decide

theorem ofJson?_toJson {s : Sonar} (fits : s.Fits) : ofJson? s.toJson = some s := by
  have market : valueOf (asChoice? Market.all Market.name)
      (s.market.map fun market => .string market.name) = some s.market :=
    valueOf_map fun market _ => ⟨nofun, asChoice?_name (by cases market <;> rfl)⟩
  unfold toJson ofJson?
  rw [fields?_object ?keyed nodup_fieldNames]
  case keyed =>
    simp only [List.append_assoc]
    exact .member <| .member <| .member <| .member <| .member <| .member <| .member <| .member <|
      .member <| .member <| .member <| .last
  refine some_of_bind rfl <| some_of_bind ?_ <| some_of_bind ?_ <| some_of_bind ?_ <|
    some_of_bind ?_ <| some_of_bind ?_ <| some_of_bind ?_ <| some_of_bind ?_ <| some_of_bind ?_ <|
    some_of_bind ?_ <| some_of_bind ?_ <| some_of_bind ?_ <| some_of_bind ?_ rfl
  all_goals simp [optional_eq, member?_append, member?_member, valueOf_natural fits.1,
    valueOf_natural fits.2, market]

theorem plain_toJson (s : Sonar) : s.toJson.Plain := by
  refine .object ?_
  simp only [List.forall_mem_append, and_assoc]
  have text (name : String) (value : Option String) :
      ∀ m ∈ member name .string value, m.2.Plain := plain_member fun t _ => .string t
  have truth (name : String) (value : Option Bool) :
      ∀ m ∈ member name .bool value, m.2.Plain := plain_member fun b _ => .bool b
  have number (name : String) (value : Option Nat) :
      ∀ m ∈ member name .natural value, m.2.Plain := plain_member fun n _ => .natural n
  exact ⟨truth _ _, text _ _, number _ _, number _ _, text _ _, truth _ _, truth _ _, text _ _,
    plain_member fun market _ => .string market.name, text _ _, text _ _, text _ _⟩

theorem fits_of_ofJson? (json : Json) : ∀ s, ofJson? json = some s → s.Fits := by
  refine forall_of_bind fun fields _ => forall_of_bind fun enabled _ => ?_
  refine forall_of_bind fun url _ => forall_of_bind fun poll isPoll => ?_
  refine forall_of_bind fun timeout isTimeout => forall_of_bind fun method _ => ?_
  refine forall_of_bind fun ignore _ => forall_of_bind fun maintenance _ => ?_
  refine forall_of_bind fun host _ => forall_of_bind fun market _ => ?_
  refine forall_of_bind fun type _ => forall_of_bind fun body _ => forall_of_bind fun match_ _ => ?_
  rintro _ ⟨⟩
  exact ⟨forall_of_optional lt_of_asNat? isPoll, forall_of_optional lt_of_asNat? isTimeout⟩

end Sonar

/-! ### Platforms -/

namespace Platform

structure Fits (p : Platform) : Prop where
  id : p.id < 2 ^ 64
  archetype : ∀ id ∈ p.archetype, id < 2 ^ 64
  sonar : ∀ sonar ∈ p.sonar, sonar.Fits
  created : ∀ t ∈ p.created, t.isValid = true
  modified : ∀ t ∈ p.modified, t.isValid = true

theorem nodup_fieldNames : fieldNames.Nodup := by decide

theorem instant?_toText {t : Instant} (valid : t.isValid = true) :
    instant? (.string t.toText) = some t := by
  rw [instant?, asString?, Option.bind_some, Instant.parse?_toText valid]

theorem ofJson?_toJson {p : Platform} (fits : p.Fits) : ofJson? p.toJson = some p := by
  have category : asChoice? Category.all Category.name (.string p.category.name) =
      some p.category := asChoice?_name (by cases p.category <;> rfl)
  have visibility : asChoice? Visibility.all Visibility.name (.string p.visibility.name) =
      some p.visibility := asChoice?_name (by cases p.visibility <;> rfl)
  have sonar : valueOf Sonar.ofJson? (p.sonar.map Sonar.toJson) = some p.sonar :=
    valueOf_map fun s given => ⟨nofun, Sonar.ofJson?_toJson (fits.sonar s given)⟩
  have instant (value : Option Instant) (valid : ∀ t ∈ value, t.isValid = true) :
      valueOf instant? (value.map fun t => .string t.toText) = some value :=
    valueOf_map fun t given => ⟨string_ne_null _, instant?_toText (valid t given)⟩
  unfold toJson ofJson?
  rw [fields?_object ?keyed nodup_fieldNames]
  case keyed =>
    simp only [List.append_assoc, List.cons_append, List.nil_append]
    exact .cons <| .cons <| .cons <| .member <| .cons <| .cons <| .cons <| .member <| .member <|
      .member .last
  refine some_of_bind rfl <| some_of_bind ?_ <| some_of_bind ?_ <| some_of_bind ?_ <|
    some_of_bind ?_ <| some_of_bind ?_ <| some_of_bind ?_ <| some_of_bind ?_ <| some_of_bind ?_ <|
    some_of_bind ?_ <| some_of_bind ?_ <| some_of_bind ?_ rfl
  all_goals simp [optional_eq, required, defaulted, member?, member?_append, member?_member,
    asNat?_natural fits.id, asString?, category, visibility, valueOf_natural fits.archetype, sonar,
    instant _ fits.created, instant _ fits.modified, asList?_strings]

theorem plain_toJson (p : Platform) : p.toJson.Plain := by
  refine .object ?_
  simp only [List.forall_mem_append, List.forall_mem_cons, List.not_mem_nil, false_implies,
    implies_true, and_true, and_assoc]
  exact ⟨.natural _, .string _, .string _, plain_member fun t _ => .string t, .string _, .string _,
    plain_strings _, plain_member fun n _ => .natural n,
    plain_member fun sonar _ => sonar.plain_toJson, plain_member fun t _ => .string _,
    plain_member fun t _ => .string _⟩

theorem isValid_of_instant? (json : Json) (t : Instant) (read : instant? json = some t) :
    t.isValid = true := by
  obtain ⟨text, -, parsed⟩ := Option.bind_eq_some_iff.mp read
  exact Instant.isValid_of_parse? parsed

theorem fits_of_ofJson? (json : Json) : ∀ p, ofJson? json = some p → p.Fits := by
  refine forall_of_bind fun fields _ => forall_of_bind fun id isId => ?_
  refine forall_of_bind fun name _ => forall_of_bind fun shortName _ => ?_
  refine forall_of_bind fun description _ => forall_of_bind fun category _ => ?_
  refine forall_of_bind fun visibility _ => forall_of_bind fun tags _ => ?_
  refine forall_of_bind fun archetype isArchetype => forall_of_bind fun sonar isSonar => ?_
  refine forall_of_bind fun created isCreated => forall_of_bind fun modified isModified => ?_
  rintro _ ⟨⟩
  exact {
    id := lt_of_required isId
    archetype := forall_of_optional lt_of_asNat? isArchetype
    sonar := forall_of_optional Sonar.fits_of_ofJson? isSonar
    created := forall_of_optional isValid_of_instant? isCreated
    modified := forall_of_optional isValid_of_instant? isModified }

end Platform

/-! ### Alerts -/

namespace Alert

structure Fits (a : Alert) : Prop where
  id : a.id < 2 ^ 64
  platform : a.platform < 2 ^ 64
  intervalSeconds : a.intervalSeconds < 2 ^ 32

theorem nodup_fieldNames : fieldNames.Nodup := by decide

theorem ofJson?_toJson {a : Alert} (fits : a.Fits) : ofJson? a.toJson = some a := by
  have type : asChoice? AlertType.all AlertType.name (.string a.type.name) = some a.type :=
    asChoice?_name (by cases a.type; rfl)
  have change : asChoice? AlertChange.all AlertChange.name (.string a.change.name) =
      some a.change := asChoice?_name (by cases a.change <;> rfl)
  have timing : asChoice? AlertTiming.all AlertTiming.name (.string a.timing.name) =
      some a.timing := asChoice?_name (by cases a.timing; rfl)
  unfold toJson ofJson?
  rw [fields?_object ?keyed nodup_fieldNames]
  case keyed =>
    exact .cons <| .cons <| .cons <| .cons <| .cons <| .cons <| .cons <| .cons <| .cons .nil
  refine some_of_bind rfl <| some_of_bind ?_ <| some_of_bind ?_ <| some_of_bind ?_ <|
    some_of_bind ?_ <| some_of_bind ?_ <| some_of_bind ?_ <| some_of_bind ?_ <| some_of_bind ?_ <|
    some_of_bind ?_ rfl
  all_goals simp [required, defaulted, member?, asNat?_natural fits.id,
    asNat?_natural fits.platform, asNat?_natural fits.intervalSeconds, asString?, asBool?, type,
    change, timing, asList?_strings]

theorem plain_toJson (a : Alert) : a.toJson.Plain := by
  refine .object ?_
  simp only [List.forall_mem_cons, List.not_mem_nil, false_implies, implies_true, and_true]
  exact ⟨.natural _, .string _, .string _, .natural _, .string _, .string _, plain_strings _,
    .natural _, .bool _⟩

theorem fits_of_ofJson? (json : Json) : ∀ a, ofJson? json = some a → a.Fits := by
  refine forall_of_bind fun fields _ => forall_of_bind fun id isId => ?_
  refine forall_of_bind fun name _ => forall_of_bind fun type _ => ?_
  refine forall_of_bind fun platform isPlatform => forall_of_bind fun change _ => ?_
  refine forall_of_bind fun timing _ => forall_of_bind fun emails _ => ?_
  refine forall_of_bind fun interval isInterval => forall_of_bind fun enabled _ => ?_
  rintro _ ⟨⟩
  exact ⟨lt_of_required isId, lt_of_required isPlatform, lt_of_required isInterval⟩

end Alert

/-! ### Applications -/

namespace Target

theorem ofJson?_toJson {t : Target} (small : t.id < 2 ^ 64) : ofJson? t.toJson = some t := by
  unfold toJson ofJson?
  rw [fields?_object ?keyed (by decide)]
  case keyed =>
    simp only [List.cons_append, List.nil_append]
    exact .cons <| .member <| .cons .nil
  refine some_of_bind rfl <| some_of_bind ?_ <| some_of_bind ?_ <| some_of_bind ?_ rfl
  all_goals simp [optional_eq, required, member?, member?_append, member?_member,
    asNat?_natural small, asBool?]

theorem plain_toJson (t : Target) : t.toJson.Plain := by
  refine .object ?_
  simp only [List.forall_mem_append, List.forall_mem_cons, List.not_mem_nil, false_implies,
    implies_true, and_true, and_assoc]
  exact ⟨.natural _, plain_member fun t _ => .string t, .bool _⟩

theorem lt_of_ofJson? (json : Json) : ∀ t, ofJson? json = some t → t.id < 2 ^ 64 := by
  refine forall_of_bind fun fields _ => forall_of_bind fun id isId => ?_
  refine forall_of_bind fun cname _ => forall_of_bind fun sonarEnabled _ => ?_
  rintro _ ⟨⟩
  exact lt_of_required isId

end Target

namespace Application

structure Fits (a : Application) : Prop where
  id : a.id < 2 ^ 64
  availabilityThreshold : ∀ n ∈ a.availabilityThreshold, n < 2 ^ 32
  platforms : ∀ target ∈ a.platforms, target.id < 2 ^ 64

theorem nodup_fieldNames : fieldNames.Nodup := by decide

theorem ofJson?_toJson {a : Application} (fits : a.Fits) : ofJson? a.toJson = some a := by
  have type : asChoice? ApplicationType.all ApplicationType.name (.string a.type.name) =
      some a.type := asChoice?_name (by cases a.type <;> rfl)
  have targets : asList? Target.ofJson? (.array (a.platforms.map Target.toJson)) =
      some a.platforms :=
    asList?_map fun target there => Target.ofJson?_toJson (fits.platforms target there)
  unfold toJson ofJson?
  rw [fields?_object ?keyed nodup_fieldNames]
  case keyed =>
    simp only [List.append_assoc, List.cons_append, List.nil_append]
    exact .cons <| .cons <| .member <| .cons <| .member <| .member <| .member <| .cons <| .cons .nil
  refine some_of_bind rfl <| some_of_bind ?_ <| some_of_bind ?_ <| some_of_bind ?_ <|
    some_of_bind ?_ <| some_of_bind ?_ <| some_of_bind ?_ <| some_of_bind ?_ <| some_of_bind ?_ <|
    some_of_bind ?_ rfl
  all_goals simp [optional_eq, required, defaulted, member?, member?_append, member?_member,
    asNat?_natural fits.id, valueOf_natural fits.availabilityThreshold, asString?, asBool?, type,
    targets]

theorem plain_toJson (a : Application) : a.toJson.Plain := by
  refine .object ?_
  simp only [List.forall_mem_append, List.forall_mem_cons, List.not_mem_nil, false_implies,
    implies_true, and_true, and_assoc]
  exact ⟨.natural _, .string _, plain_member fun t _ => .string t, .string _,
    plain_member fun t _ => .string t, plain_member fun t _ => .string t,
    plain_member fun n _ => .natural n, plain_array_map fun target _ => target.plain_toJson,
    .bool _⟩

theorem fits_of_ofJson? (json : Json) : ∀ a, ofJson? json = some a → a.Fits := by
  refine forall_of_bind fun fields _ => forall_of_bind fun id isId => ?_
  refine forall_of_bind fun name _ => forall_of_bind fun description _ => ?_
  refine forall_of_bind fun type _ => forall_of_bind fun cname _ => ?_
  refine forall_of_bind fun fallback _ => forall_of_bind fun threshold isThreshold => ?_
  refine forall_of_bind fun targets areTargets => forall_of_bind fun enabled _ => ?_
  rintro _ ⟨⟩
  exact ⟨lt_of_required isId, forall_of_optional lt_of_asNat? isThreshold,
    forall_of_defaulted (forall_of_asList? Target.lt_of_ofJson?) areTargets⟩

end Application

/-! ### Zones -/

namespace Zone

theorem nodup_fieldNames : fieldNames.Nodup := by decide

theorem ofJson?_toJson {z : Zone} (small : z.id < 2 ^ 64) : ofJson? z.toJson = some z := by
  unfold toJson ofJson?
  rw [fields?_object ?keyed nodup_fieldNames]
  case keyed =>
    simp only [List.append_assoc, List.cons_append, List.nil_append]
    exact .cons <| .cons <| .member <| .cons .last
  refine some_of_bind rfl <| some_of_bind ?_ <| some_of_bind ?_ <| some_of_bind ?_ <|
    some_of_bind ?_ <| some_of_bind ?_ rfl
  all_goals simp [optional_eq, required, defaulted, member?, member?_append, member?_member,
    asNat?_natural small, asString?, asList?_strings]

theorem plain_toJson (z : Zone) : z.toJson.Plain := by
  refine .object ?_
  simp only [List.forall_mem_append, List.forall_mem_cons, List.not_mem_nil, false_implies,
    implies_true, and_true, and_assoc]
  exact ⟨.natural _, .string _, plain_member fun t _ => .string t, plain_strings _,
    plain_member fun t _ => .string t⟩

theorem lt_of_ofJson? (json : Json) : ∀ z, ofJson? json = some z → z.id < 2 ^ 64 := by
  refine forall_of_bind fun fields _ => forall_of_bind fun id isId => ?_
  refine forall_of_bind fun name _ => forall_of_bind fun description _ => ?_
  refine forall_of_bind fun tags _ => forall_of_bind fun zoneFile _ => ?_
  rintro _ ⟨⟩
  exact lt_of_required isId

end Zone

/-! ### Resources of any kind -/

namespace Kind

variable {kind : Kind}

/-- The numbers of a resource are in the ranges of their fields, and its instants exist. -/
def Fits : {kind : Kind} → kind.Item → Prop
  | .platform, item => Platform.Fits item
  | .alert, item => Alert.Fits item
  | .application, item => Application.Fits item
  | .zone, item => Zone.id item < 2 ^ 64

/-- **A resource that fits is read back from its JSON value.** -/
theorem ofJson?_toJson {item : kind.Item} (fits : Fits item) :
    ofJson? kind (toJson item) = some item := by
  cases kind with
  | platform => exact Platform.ofJson?_toJson fits
  | alert => exact Alert.ofJson?_toJson fits
  | application => exact Application.ofJson?_toJson fits
  | zone => exact Zone.ofJson?_toJson fits

/-- Every resource that has been read fits. -/
theorem fits_of_ofJson? (json : Json) (item : kind.Item) (read : ofJson? kind json = some item) :
    Fits item := by
  cases kind with
  | platform => exact Platform.fits_of_ofJson? json item read
  | alert => exact Alert.fits_of_ofJson? json item read
  | application => exact Application.fits_of_ofJson? json item read
  | zone => exact Zone.lt_of_ofJson? json item read

theorem plain_toJson (item : kind.Item) : (toJson item).Plain := by
  cases kind with
  | platform => exact Platform.plain_toJson item
  | alert => exact Alert.plain_toJson item
  | application => exact Application.plain_toJson item
  | zone => exact Zone.plain_toJson item

end Kind

end Steering.Traffic
