import Steering.Proofs.Store.Document
import Steering.Proofs.Traffic.Record

/-!
# State files

A document whose resources fit, and whose counter does, is read back from its text in either layout
(`parse?_write`). Every document that has been read fits, so what can be read at all reads the same
after it has been written anew (`written_back`). When a document is loaded its counter is raised
above every id (`Settled`), which changes nothing about one that a store has written.
-/

namespace Steering.Store.Document

open Traffic Json

variable {kind : Kind} {doc : Document}

/-! ### Reading what has been written -/

/-- The resources of the document fit a state file. -/
def Fits (doc : Document) : Prop := ∀ kind, ∀ item ∈ doc.items kind, Kind.Fits item

theorem nodup_fieldNames : fieldNames.Nodup := by decide

theorem ofJson?_toJson (fits : doc.Fits) (counter : doc.nextId < 2 ^ 64) :
    ofJson? doc.toJson = some doc := by
  have platforms : asList? Platform.ofJson? (.array (doc.platforms.map Platform.toJson)) =
      some doc.platforms :=
    asList?_map fun item there => Platform.ofJson?_toJson (fits .platform item there)
  have alerts : asList? Alert.ofJson? (.array (doc.alerts.map Alert.toJson)) = some doc.alerts :=
    asList?_map fun item there => Alert.ofJson?_toJson (fits .alert item there)
  have applications : asList? Application.ofJson?
      (.array (doc.applications.map Application.toJson)) = some doc.applications :=
    asList?_map fun item there => Application.ofJson?_toJson (fits .application item there)
  have zones : asList? Zone.ofJson? (.array (doc.zones.map Zone.toJson)) = some doc.zones :=
    asList?_map fun item there => Zone.ofJson?_toJson (fits .zone item there)
  unfold toJson ofJson?
  rw [fields?_object ?keyed nodup_fieldNames]
  case keyed => exact .cons <| .cons <| .cons <| .cons <| .cons .nil
  refine some_of_bind rfl <| some_of_bind ?_ <| some_of_bind ?_ <| some_of_bind ?_ <|
    some_of_bind ?_ <| some_of_bind ?_ rfl
  all_goals simp [defaulted, member?, asNat?_natural counter, platforms, alerts, applications,
    zones]

theorem plain_toJson (doc : Document) : doc.toJson.Plain := by
  refine .object ?_
  simp only [List.forall_mem_cons, List.not_mem_nil, false_implies, implies_true, and_true]
  exact ⟨.natural _, plain_array_map fun item _ => item.plain_toJson,
    plain_array_map fun item _ => item.plain_toJson,
    plain_array_map fun item _ => item.plain_toJson,
    plain_array_map fun item _ => item.plain_toJson⟩

/-- The two ways to lay out the text of a document. A store writes several lines. -/
inductive Layout where
  | oneLine
  | lines

def Layout.write (layout : Layout) (doc : Document) : String :=
  match layout with
  | .oneLine => doc.toJson.compact
  | .lines => doc.toText

/-- **A document is read back from either layout**, with nothing lost. -/
theorem parse?_write (layout : Layout) (fits : doc.Fits) (counter : doc.nextId < 2 ^ 64) :
    parse? (layout.write doc) = some doc := by
  have read : Json.parse? (layout.write doc) = some doc.toJson := by
    cases layout with
    | oneLine => exact parse?_compact doc.plain_toJson
    | lines => exact parse?_pretty doc.plain_toJson
  rw [parse?, read, Option.bind_some, ofJson?_toJson fits counter]

/-- A document is read back from its state file. -/
theorem parse?_toText (fits : doc.Fits) (counter : doc.nextId < 2 ^ 64) :
    parse? doc.toText = some doc :=
  parse?_write .lines fits counter

theorem fits_of_ofJson? (json : Json) :
    ∀ doc, ofJson? json = some doc → doc.Fits ∧ doc.nextId < 2 ^ 64 := by
  refine forall_of_bind fun fields _ => forall_of_bind fun nextId isNextId => ?_
  refine forall_of_bind fun platforms arePlatforms => forall_of_bind fun alerts areAlerts => ?_
  refine forall_of_bind fun applications areApplications => forall_of_bind fun zones areZones => ?_
  rintro _ ⟨⟩
  refine ⟨fun kind => ?_, of_defaulted (P := (· < 2 ^ 64)) (by decide) lt_of_asNat? isNextId⟩
  cases kind with
  | platform => exact forall_of_defaulted (forall_of_asList? Platform.fits_of_ofJson?) arePlatforms
  | alert => exact forall_of_defaulted (forall_of_asList? Alert.fits_of_ofJson?) areAlerts
  | application =>
    exact forall_of_defaulted (forall_of_asList? Application.fits_of_ofJson?) areApplications
  | zone => exact forall_of_defaulted (forall_of_asList? Zone.lt_of_ofJson?) areZones

/-- A document that has been read fits, and so does its counter. -/
theorem fits_of_parse? {text : String} (parsed : parse? text = some doc) :
    doc.Fits ∧ doc.nextId < 2 ^ 64 := by
  obtain ⟨json, -, read⟩ := Option.bind_eq_some_iff.mp parsed
  exact fits_of_ofJson? json doc read

/-- **A state file loses nothing.** A document whose numbers are in the ranges of their fields and
whose instants exist is read back from either layout of its text. So a text that can be read at all
reads the same after it has been written anew, and is then written the same. Instants have the
fewest digits of a fraction with which nothing is lost. -/
theorem written_back :
    (∀ doc : Document, doc.Fits → doc.nextId < 2 ^ 64 →
      ∀ layout : Layout, parse? (layout.write doc) = some doc) ∧
    (∀ text doc, parse? text = some doc → ∀ layout : Layout,
      parse? (layout.write doc) = some doc ∧
      (parse? (layout.write doc)).map layout.write = some (layout.write doc)) ∧
    ∀ t : Instant, t.isValid = true → 0 ≤ t.year → t.year ≤ 9999 →
      ∃ digits ∈ [0, 3, 6, 9], Instant.Exact digits t.nanosecond ∧
        (∀ fewer ∈ [0, 3, 6, 9], Instant.Exact fewer t.nanosecond → digits ≤ fewer) ∧
        t.toText.toList = t.clock ++ Instant.fraction digits t.nanosecond ++ ['Z'] ∧
        t.clock.length = 19 := by
  refine ⟨fun doc fits counter layout => parse?_write layout fits counter, ?_, ?_⟩
  · -- What has been read fits, and so the first part applies to it.
    intro text doc parsed layout
    obtain ⟨fits, counter⟩ := fits_of_parse? parsed
    have again := parse?_write layout fits counter
    exact ⟨again, by rw [again, Option.map_some]⟩
  · intro t valid first last
    have small : t.nanosecond < 1000000000 := by
      simp only [Instant.isValid, Bool.and_eq_true, decide_eq_true_eq] at valid
      exact valid.2
    obtain ⟨digits, possible, exact, fewest, written⟩ := Instant.writeFraction_eq small
    refine ⟨digits, possible, exact, fewest, ?_, Instant.length_clock valid first last⟩
    rw [Instant.toText, String.toList_ofList, Instant.writeChars, written, Instant.clock]

/-- An unusual document: an id as large as can be, a leap second, a health check of which nothing
is known, and a name that has to be escaped. -/
def odd : Document where
  nextId := 2 ^ 64 - 1
  platforms := [{
    id := 2 ^ 64 - 2, name := "\"é\\\n\x01", shortName := "", category := .cloudStorage
    visibility := .private_, sonar := some {}
    created := some { year := 2016, month := 12, day := 31, hour := 23, minute := 59, second := 60
                      nanosecond := 500000000 } }]

theorem written_back_odd :
    parse? (Layout.oneLine.write odd) = some odd ∧ parse? (Layout.lines.write odd) = some odd := by
  have fits : odd.Fits := by
    intro kind item there
    cases kind with
    | platform =>
      obtain rfl := List.mem_singleton.mp there
      exact ⟨by decide, nofun, by simp [Sonar.Fits], by decide, nofun⟩
    | alert | application | zone => exact absurd there List.not_mem_nil
  obtain ⟨readBack, -, -⟩ := written_back
  exact ⟨readBack odd fits (by decide) .oneLine, readBack odd fits (by decide) .lines⟩

/-! ### The counter -/

/-- The counter is above every id, and so there is no need to raise it. -/
def Settled (doc : Document) : Prop := doc.maxId < doc.nextId

theorem foldl_max_lt {ids : List Nat} {init n : Nat} :
    ids.foldl max init < n ↔ init < n ∧ ∀ id ∈ ids, id < n := by
  induction ids generalizing init with
  | nil => simp
  | cons id ids ih =>
    rw [List.foldl_cons, ih, List.forall_mem_cons, Nat.max_lt, and_assoc]

theorem mem_ids_iff {id : Nat} :
    id ∈ doc.ids ↔ ∃ kind, ∃ item ∈ doc.items kind, Kind.id item = id := by
  simp only [ids, List.mem_append, List.mem_map]
  constructor
  · rintro (((⟨item, there, rfl⟩ | ⟨item, there, rfl⟩) | ⟨item, there, rfl⟩) | ⟨item, there, rfl⟩)
    · exact ⟨.platform, item, there, rfl⟩
    · exact ⟨.alert, item, there, rfl⟩
    · exact ⟨.application, item, there, rfl⟩
    · exact ⟨.zone, item, there, rfl⟩
  · rintro ⟨kind, item, there, rfl⟩
    cases kind with
    | platform => exact .inl (.inl (.inl ⟨item, there, rfl⟩))
    | alert => exact .inl (.inl (.inr ⟨item, there, rfl⟩))
    | application => exact .inl (.inr ⟨item, there, rfl⟩)
    | zone => exact .inr ⟨item, there, rfl⟩

theorem maxId_lt_iff {n : Nat} :
    doc.maxId < n ↔ 0 < n ∧ ∀ kind, ∀ item ∈ doc.items kind, Kind.id item < n := by
  rw [maxId, foldl_max_lt]
  refine and_congr_right fun _ => ?_
  simp only [mem_ids_iff]
  constructor
  · exact fun below kind item there => below _ ⟨kind, item, there, rfl⟩
  · rintro below _ ⟨kind, item, there, rfl⟩
    exact below kind item there

theorem Settled.settled_eq (settled : doc.Settled) : doc.settled = doc := by
  have same : max doc.nextId (doc.maxId + 1) = doc.nextId := Nat.max_eq_left settled
  rw [Document.settled, same]

theorem items_settled (doc : Document) (kind : Kind) : doc.settled.items kind = doc.items kind := by
  cases kind <;> rfl

theorem settled_settled (doc : Document) : doc.settled.Settled :=
  Nat.lt_of_lt_of_le (Nat.lt_succ_self _) (Nat.le_max_right _ _)

end Steering.Store.Document
