import Steering.Proofs.Grammar.Walk
import Steering.Proofs.Shell.Console
import Steering.Proofs.Traffic.Record
import Steering.Shell.Basic

/-!
# What a line does

Every command, whatever its arguments, leaves the store as it was or carries out one plan
(`Did`), and it succeeds if and only if the plan does. The plan fits the store the line began
with, and a resource that it makes is made for that store (`WellMade`): its name can be given as a
value again, and the platforms that it refers to are in the store.

Which plans a command may come to is read off its arguments (`Asks`). A command that is not refused
has looked only, if that is what it is for, or has carried out a plan it asks for (`Performed`).
-/

namespace Steering.Shell

open Grammar Store Traffic

variable {α Code : Type}

/-! ### What is made -/

/-- What a new resource refers to is in the document, and its numbers fit. -/
def MadeFor (doc : Document) : {kind : Kind} → kind.Item → Prop
  | .platform, platform =>
    (∃ region ∈ doc.shelf .community,
      region.category = .cloudComputing ∧ Platform.archetype platform = some region.id) ∧
    ∀ sonar ∈ Platform.sonar platform, sonar.Fits
  | .alert, alert =>
    (∃ platform ∈ doc.shelf (.own .platform), Platform.id platform = Alert.platform alert) ∧
    Alert.intervalSeconds alert < 2 ^ 32
  | .application, application =>
    (∀ target ∈ Application.platforms application, ∃ platform ∈ doc.platforms,
      platform.id = target.id) ∧
    ∀ n ∈ Application.availabilityThreshold application, n < 2 ^ 32
  | .zone, _ => True

/-- A health check can be run: it is given some setting, it has a method, and if it is enabled it
knows where to look. -/
structure Usable (sonar : Sonar) : Prop where
  given : sonar ≠ {}
  method : sonar.method ≠ none
  url : sonar.enabled = some true → sonar.url ≠ none

/-- What a new resource says of itself is complete. -/
def Complete : {kind : Kind} → kind.Item → Prop
  | .platform, platform =>
    Platform.shortName platform ≠ "" ∧ ∀ sonar ∈ Platform.sonar platform, Usable sonar
  | .alert, _ | .application, _ | .zone, _ => True

/-- What the console has made sure of when it asks for a new resource. -/
structure WellMade (doc : Document) {kind : Kind} (item : kind.Item) : Prop where
  named : IsValue (Kind.nameOf item)
  visible : Text.allBlank (Kind.nameOf item) = false
  madeFor : MadeFor doc item
  complete : Complete item

theorem neededName_eq_ok_iff {args : Args Code} {name : String} :
    neededName args = .ok name ↔ args.arg? "name" = some name ∧ Text.allBlank name = false := by
  unfold neededName
  cases given : args.arg? "name" with
  | none => simp
  | some value =>
    by_cases blank : Text.allBlank value = true
    · simp only [blank, if_true, reduceCtorEq, Option.some.injEq, false_iff, not_and]
      rintro rfl
      simp [blank]
    · simp only [if_neg blank, Except.ok.injEq, Option.some.injEq, iff_self_and]
      rintro rfl
      simpa using blank

theorem ok_of_bind {ε β : Type} {x : Except ε α} {next : α → Except ε β} {b : β}
    (ok : x >>= next = .ok b) : ∃ a, x = .ok a ∧ next a = .ok b := by
  cases x with
  | ok a => exact ⟨a, rfl, ok⟩
  | error e => cases ok

theorem ok_of_mapError {ε ε' : Type} {f : ε → ε'} {x : Except ε α} {a : α}
    (ok : x.mapError f = .ok a) : x = .ok a := by
  cases x with
  | ok b =>
    cases ok
    rfl
  | error e => cases ok

theorem lt_of_readNumber {name value : String} {number : Option Nat}
    (read : readNumber name value = .ok number) : ∀ n ∈ number, n < 2 ^ 32 := by
  rintro n rfl
  unfold readNumber at read
  split at read
  · cases read
  · split at read
    next m decimal =>
      cases read
      unfold Text.decimal? at decimal
      have bounded : ∀ digits, Text.numeral? 10 0x100000000 digits = some n → n < 2 ^ 32 := by
        intro digits numeral
        unfold Text.numeral? at numeral
        split at numeral
        · cases numeral
        · simpa using (Option.filter_eq_some_iff.mp numeral).2
      split at decimal <;> exact bounded _ decimal
    next => cases read

/-- The settings of a health check that are read have numbers that fit, and if there are any, a
method is among them. -/
theorem readSonar_spec {args : Args Code} {sonar : Sonar} (read : readSonar args = .ok sonar) :
    sonar.Fits ∧ (sonar ≠ {} → sonar.method ≠ none) := by
  unfold readSonar at read
  dsimp only at read
  split at read
  all_goals
    obtain ⟨market, -, read⟩ := ok_of_bind read
    obtain ⟨enabled, -, read⟩ := ok_of_bind read
    obtain ⟨url, -, read⟩ := ok_of_bind read
    obtain ⟨pollInterval, isPoll, read⟩ := ok_of_bind read
    obtain ⟨timeout, isTimeout, read⟩ := ok_of_bind read
    obtain ⟨ignored, -, read⟩ := ok_of_bind read
    obtain ⟨maintained, -, read⟩ := ok_of_bind read
    have fits := And.intro (lt_of_readNumber isPoll) (lt_of_readNumber isTimeout)
    split at read
    next =>
      cases read
      exact ⟨fits, fun _ => Option.some_ne_none _⟩
    next complete =>
      cases read
      exact ⟨fits, fun given lacking => complete ⟨given, lacking⟩⟩

/-- A platform that is given no short name gets one from its name, of which something is to be
seen. -/
theorem shortName_ne_empty {args : Args Code} {name : String}
    (visible : Text.allBlank name = false) :
    (given? args "shortName").getD (shortNameOf name) ≠ "" := by
  cases given : given? args "shortName" with
  | some shortName =>
    rintro rfl
    have nonempty := (Option.filter_eq_some_iff.mp given).2
    cases nonempty
  | none =>
    intro (empty : shortNameOf name = "")
    have short : name.toList.map (fun c => if c = ' ' then '_' else c) = [] := by
      simpa [shortNameOf] using congrArg String.toList empty
    rw [Text.allBlank, List.map_eq_nil_iff.mp short] at visible
    cases visible

/-! ### Looking things up -/

/-- The platforms of a scope, as a catalog lists them. -/
def listing (doc : Document) (scope : Scope) : List Platform :=
  (if scope.includes .community then doc.shelf .community else []) ++
    if scope.includes .private_ then doc.shelf (.own .platform) else []

theorem mem_of_mem_listing {doc : Document} {scope : Scope} {platform : Platform}
    (listed : platform ∈ listing doc scope) : platform ∈ doc.platforms := by
  unfold listing at listed
  rcases List.mem_append.mp listed with there | there <;> split at there
  · exact (List.mem_filter.mp there).1
  · exact absurd there List.not_mem_nil
  · exact (List.mem_filter.mp there).1
  · exact absurd there List.not_mem_nil

section Queries

variable (now : Instant) (w : Workspace)

theorem run_platforms (scope : Scope) : (Uncached.platforms (service now) scope).run w =
    (.ok (listing w.store.document scope), w) := by
  unfold Uncached.platforms listing
  dsimp only
  split <;> split <;> rfl

theorem run_platformByName (name : String) (scope : Scope) :
    (Uncached.platformByName (service now) name scope).run w =
      (@Catalog.named .platform name (listing w.store.document scope), w) := by
  rw [Uncached.platformByName, run_bind, run_platforms]
  exact run_liftM _ w

end Queries

theorem implements_deleteAll (now : Instant) (kind : Kind) (names : List String) :
    Implements (deleteAll (service now) kind names)
      (Uncached.deleteAll (service now) kind names) := by
  induction names with
  | nil => exact .pure ()
  | cons name names ih => exact .bind (.delete now kind name) fun _ => ih

/-! ### What a command may come to -/

section Asking

variable [FilterEngine]

/-- The names of the resources that a delete command is about: the one that is given, or else those
that the filter matches. -/
inductive Doomed (args : Args Code) (doc : Document) (kind : Kind) : List String → Prop
  | named {name : String} (given : given? args "name" = some name) : Doomed args doc kind [name]
  | matched {filter : String} {kept : List kind.Item} (unnamed : given? args "name" = none)
      (given : given? args "filter" = some filter)
      (matched : filterByName Kind.nameOf filter (doc.shelf (.own kind)) = .ok kept) :
      Doomed args doc kind (kept.map Kind.nameOf)

/-- The command only looks at what there is. -/
def Command.looks : Command → Bool
  | .createCloudPlatform | .createAlert | .createApplication | .createZone | .delete _ => false
  | .listPlatforms _ | .listAlerts | .listApplications | .listZones | .showOne _ | .help | .exit =>
    true

/-- The kind of the resource that the command makes. -/
def Command.makes? : Command → Option Kind
  | .createCloudPlatform => some .platform
  | .createAlert => some .alert
  | .createApplication => some .application
  | .createZone => some .zone
  | _ => none

/-- What a command may come to over a document: a plan, or none if it only looks. -/
inductive Asks (args : Args Command) (doc : Document) : Option Plan → Prop
  | nothing (looks : args.code.looks = true) : Asks args doc none
  | create {kind : Kind} {item : kind.Item} (makes : args.code.makes? = some kind)
      (named : args.arg? "name" = some (Kind.nameOf item)) :
      Asks args doc (some (.create kind item))
  | replace {platform : Platform} (makes : args.code = .createCloudPlatform)
      (forced : args.has "force" = true) (named : args.arg? "name" = some platform.name) :
      Asks args doc (some (.replace platform))
  | delete {kind : Kind} {names : List String} (deletes : args.code = .delete kind)
      (doomed : Doomed args doc kind names) : Asks args doc (some (.delete kind names))

/-- What a line may come to: what its command may, if it is one. -/
def LineAsks (line : String) (doc : Document) (plan : Option Plan) : Prop :=
  ∃ args, spec.parse line = .ok args ∧ Asks args doc plan

theorem filterByName_eq_ok {β : Type} {name : β → String} {filter : String} {items kept : List β}
    (ok : filterByName name filter items = .ok kept) : kept.Sublist items := by
  unfold filterByName at ok
  split at ok
  · cases ok
    exact List.Sublist.refl _
  · split at ok <;> cases ok
    exact List.filter_sublist

theorem Doomed.fits {args : Args Code} {doc : Document} {kind : Kind} {names : List String}
    (doomed : Doomed args doc kind names) : (Plan.delete kind names).Fits doc := by
  cases doomed with
  | named given => exact .inl ⟨_, rfl⟩
  | matched unnamed given matched => exact .inr ((filterByName_eq_ok matched).map _)

end Asking

/-! ### Effects -/

/-- What a line that ended with the result did, if `asks` says what it may come to: it was refused
before it changed anything, it only looked, or it carried out a plan. -/
inductive Performed (now : Instant) (w : Workspace) (asks : Option Plan → Prop)
    (result : Except ShellError α) : Workspace → Prop
  | refused {e : ShellError} (failed : result = .error e) : Performed now w asks result w
  | looked (asked : asks none) : Performed now w asks result w
  | planned {plan : Plan} (asked : asks (some plan)) (fits : plan.Fits w.store.document)
      (wellMade : ∀ made ∈ plan.made, WellMade w.store.document made.2)
      (same : result.isOk = ((plan.carryOut now).run w).1.isOk) :
      Performed now w asks result ((plan.carryOut now).run w).2

/-- What a line that ended with the result did: nothing, or it carried out a plan. -/
inductive Did (now : Instant) (w : Workspace) (result : Except ShellError α) : Workspace → Prop
  | nothing : Did now w result w
  | planned {plan : Plan} (fits : plan.Fits w.store.document)
      (wellMade : ∀ made ∈ plan.made, WellMade w.store.document made.2)
      (same : result.isOk = ((plan.carryOut now).run w).1.isOk) :
      Did now w result ((plan.carryOut now).run w).2

namespace Performed

variable {now : Instant} {w after : Workspace} {asks : Option Plan → Prop}
variable {result : Except ShellError α}

theorem did (performed : Performed now w asks result after) : Did now w result after := by
  cases performed with
  | refused => exact .nothing
  | looked => exact .nothing
  | planned asked fits wellMade same => exact .planned fits wellMade same

theorem mono {more : Option Plan → Prop} (performed : Performed now w asks result after)
    (weaker : ∀ plan, asks plan → more plan) : Performed now w more result after := by
  cases performed with
  | refused failed => exact .refused failed
  | looked asked => exact .looked (weaker _ asked)
  | planned asked fits wellMade same => exact .planned (weaker _ asked) fits wellMade same

/-- Of the result it only counts whether it is an error. -/
theorem congr {β : Type} {other : Except ShellError β} (performed : Performed now w asks result after)
    (alike : other.isOk = result.isOk) : Performed now w asks other after := by
  cases performed with
  | refused failed =>
    subst failed
    cases other with
    | error e => exact .refused rfl
    | ok b => cases alike
  | looked asked => exact .looked asked
  | planned asked fits wellMade same => exact .planned asked fits wellMade (alike.trans same)

theorem create {kind : Kind} {item : kind.Item} (asked : asks (some (.create kind item)))
    (wellMade : WellMade w.store.document item) (same : result.isOk = (w.create now item).1.isOk) :
    Performed now w asks result (w.create now item).2 := by
  have run := @Plan.run_carryOut_create now w kind item
  have did : Performed now w asks result (((Plan.create kind item).carryOut now).run w).2 := by
    refine .planned asked trivial ?_ ?_
    · rintro made ⟨⟩
      exact wellMade
    · rw [run, same]
      cases (w.create now item).1 <;> rfl
  rwa [run] at did

theorem replace {platform : Platform} (asked : asks (some (.replace platform)))
    (listed : platform.name ∈ (w.store.document.shelf (.own .platform)).map Platform.name)
    (wellMade : @WellMade w.store.document .platform platform)
    (same : result.isOk = ((Uncached.delete (service now) .platform platform.name >>= fun _ =>
      (service now).create .platform platform).run w).1.isOk) :
    Performed now w asks result
      ((Uncached.delete (service now) .platform platform.name >>= fun _ =>
        (service now).create .platform platform).run w).2 := by
  generalize both : (Uncached.delete (service now) .platform platform.name >>= fun _ =>
      (service now).create .platform platform).run w = done at same ⊢
  have run : ((Plan.replace platform).carryOut now).run w = (done.1.map fun _ => (), done.2) := by
    rw [← both, run_bind, Plan.run_carryOut_replace]
    rcases (Uncached.delete (service now) .platform platform.name).run w with ⟨_ | _, between⟩
    · rfl
    · exact Plan.run_carryOut_create
  have did : Performed now w asks result (((Plan.replace platform).carryOut now).run w).2 := by
    refine .planned asked listed ?_ ?_
    · rintro made ⟨⟩
      exact wellMade
    · rw [run, same]
      cases done.1 <;> rfl
  rwa [run] at did

theorem delete {kind : Kind} {names : List String} (asked : asks (some (.delete kind names)))
    (fits : (Plan.delete kind names).Fits w.store.document)
    (same : result.isOk = ((Uncached.deleteAll (service now) kind names).run w).1.isOk) :
    Performed now w asks result ((Uncached.deleteAll (service now) kind names).run w).2 :=
  .planned asked fits (fun _ none => nomatch none) same

end Performed

variable {now : Instant} {w : Workspace} {asks : Option Plan → Prop}

/-- The result of a line is that of its command. -/
theorem Ends.andThen {program : ConsoleM Unit} {outcome : Outcome}
    (ends : Ends program w (Performed now w asks)) :
    Ends (program >>= fun _ => Pure.pure outcome) w (Performed now w asks) := by
  refine .bind (ends.mono ?_)
  rintro (e | _) after performed
  · exact performed.congr rfl
  · exact .pure (performed.congr rfl)

theorem Quiet.ends {program : ConsoleM α} (quiet : Quiet program) (asked : asks none) :
    Ends program w (Performed now w asks) :=
  (quiet w).mono fun _ _ same => same ▸ .looked asked

/-! ### Creating -/

/-- A line that ends with creating a resource. -/
theorem ends_create {kind : Kind} {item : kind.Item} {text : kind.Item → String}
    (asked : asks (some (.create kind item))) (wellMade : WellMade w.store.document item) :
    Ends (onCatalog (Catalog.create (service now) kind item) >>= fun stored =>
      sayLine (text stored)) w (Performed now w asks) :=
  .report (.create now kind item) fun _ same => .create asked wellMade same

/-- A line that ends with creating a platform after it has deleted the one of that name. -/
theorem ends_replace {name : String} {platform : Platform} {text : Platform → String}
    (asked : asks (some (.replace platform))) (named : platform.name = name)
    (listed : name ∈ (w.store.document.shelf (.own .platform)).map Platform.name)
    (wellMade : @WellMade w.store.document .platform platform) :
    Ends (onCatalog (Catalog.delete (service now) .platform name) >>= fun _ =>
      onCatalog (Catalog.create (service now) .platform platform) >>= fun stored =>
        sayLine (text stored)) w (Performed now w asks) := by
  subst named
  rw [← bind_assoc, ← onCatalog_bind]
  exact .report (.bind (.delete now .platform _) fun _ => .create now .platform _)
    fun _ same => .replace asked listed wellMade same

variable {args : Args Command}

theorem minutesToSeconds_lt (minutes : Nat) : minutesToSeconds minutes < 2 ^ 32 :=
  Nat.lt_of_le_of_lt (Nat.min_le_right _ _) (by decide)

theorem regionNamed_eq_ok {region : String} {platforms : List Platform} {found : Platform}
    (isRegion : regionNamed region platforms = .ok found) :
    found ∈ platforms ∧ found.category = .cloudComputing := by
  unfold regionNamed at isRegion
  split at isRegion
  next first =>
    cases isRegion
    have fits : found.name = region ∧ found.category = .cloudComputing := by
      simpa using List.find?_some first
    exact ⟨List.mem_of_find?_eq_some first, fits.2⟩
  next => cases isRegion

section Commands

variable [FilterEngine]

theorem runCreateAlert_ends (code : args.code = .createAlert) (given : args.Given) :
    Ends (runCreateAlert (service now) args) w (Performed now w (Asks args w.store.document)) := by
  refine .bind_check (fun _ => .refused rfl) fun name isName => ?_
  refine .bind_check (fun _ => .refused rfl) fun type _ => ?_
  refine .bind_check (fun _ => .refused rfl) fun change _ => ?_
  refine .bind_check (fun _ => .refused rfl) fun timing _ => ?_
  refine .bind_check (fun _ => .refused rfl) fun interval _ => ?_
  refine .bind_check (fun _ => .refused rfl) fun platformName _ => ?_
  refine .bind_query (.platformByName now _ _) (run_platformByName now w _ _)
    (fun _ => .refused rfl) fun platform found => ?_
  obtain ⟨named, visible⟩ := neededName_eq_ok_iff.mp isName
  have listed : platform ∈ w.store.document.shelf (.own .platform) :=
    (@Catalog.named_eq_ok .platform _ _ _ found).1
  exact ends_create (.create (by rw [code]; rfl) named)
    ⟨given "name" name named, visible, ⟨⟨platform, listed, rfl⟩, minutesToSeconds_lt _⟩, trivial⟩

theorem runCreateApplication_ends (code : args.code = .createApplication) (given : args.Given) :
    Ends (runCreateApplication (service now) args) w
      (Performed now w (Asks args w.store.document)) := by
  refine .bind_check (fun _ => .refused rfl) fun name isName => ?_
  refine .bind_check (fun _ => .refused rfl) fun typeName _ => ?_
  refine .bind_check (fun _ => .refused rfl) fun type _ => ?_
  refine .bind_check (fun _ => .refused rfl) fun threshold isThreshold => ?_
  refine .bind_check (fun _ => .refused rfl) fun sonarEnabled _ => ?_
  refine .bind_check (fun _ => .refused rfl) fun targetName _ => ?_
  refine .bind_query (.platformByName now _ _) (run_platformByName now w _ _)
    (fun _ => .refused rfl) fun target found => ?_
  obtain ⟨named, visible⟩ := neededName_eq_ok_iff.mp isName
  have known : target ∈ w.store.document.platforms :=
    mem_of_mem_listing (@Catalog.named_eq_ok .platform _ _ _ found).1
  refine ends_create (.create (by rw [code]; rfl) named)
    ⟨given "name" name named, visible, ⟨?_, ?_⟩, trivial⟩
  · simpa using ⟨target, known, rfl⟩
  · exact lt_of_readNumber isThreshold

theorem runCreateZone_ends (code : args.code = .createZone) (given : args.Given) :
    Ends (runCreateZone (service now) args) w (Performed now w (Asks args w.store.document)) := by
  have make (zoneFile : Option String) : Ends
      (check (neededName args) >>= fun domainName =>
        onCatalog (Catalog.create (service now) .zone {
          id := 0
          domainName
          description := given? args "description"
          tags := Text.splitList (args.argOrEmpty "tags")
          zoneFile }) >>= fun zone =>
        sayLine (@createdReport .zone zone ++ ", " ++ toString (Zone.recordCount zone) ++
          " records)")) w (Performed now w (Asks args w.store.document)) := by
    refine .bind_check (fun _ => .refused rfl) fun domainName isName => ?_
    obtain ⟨named, visible⟩ := neededName_eq_ok_iff.mp isName
    exact ends_create (.create (by rw [code]; rfl) named)
      ⟨given "name" domainName named, visible, trivial, trivial⟩
  unfold runCreateZone
  dsimp only
  split
  next path _ =>
    refine .bind (.map (.readFile fun result => ?_))
    cases result with
    | ok text => exact make (some text)
    | error e => exact .refused rfl
  next => exact .bind (.pure (make none))

theorem runCreatePlatform_ends (code : args.code = .createCloudPlatform) (given : args.Given) :
    Ends (runCreatePlatform (service now) args) w
      (Performed now w (Asks args w.store.document)) := by
  refine .bind_check (fun _ => .refused rfl) fun name isName => ?_
  refine .bind_check (fun _ => .refused rfl) fun region _ => ?_
  refine .bind_check (fun _ => .refused rfl) fun sonar isSonar => ?_
  dsimp only
  split
  · exact .bind (.throw (.refused rfl))
  rename_i checked
  refine .bind_query (.platforms now _) (run_platforms now w _) (fun _ => .refused rfl)
    fun regions isRegions => ?_
  cases isRegions
  refine .bind_check (fun _ => .refused rfl) fun archetype isArchetype => ?_
  obtain ⟨named, visible⟩ := neededName_eq_ok_iff.mp isName
  obtain ⟨fits, method⟩ := readSonar_spec isSonar
  have wellMade : ∀ item : Platform, item.name = name →
      item.shortName = (given? args "shortName").getD (shortNameOf name) →
      item.archetype = some archetype.id →
      item.sonar = (if sonar = {} then none else some sonar) →
      @WellMade w.store.document .platform item := by
    rintro item rfl short fromRegion watched
    obtain ⟨listed, cloud⟩ := regionNamed_eq_ok (ok_of_mapError isArchetype)
    have listed : archetype ∈ w.store.document.shelf .community := by
      simpa [listing, Scope.includes] using listed
    have asked : ∀ settings ∈ item.sonar, sonar ≠ {} ∧ settings = sonar := by
      intro settings isSettings
      rw [watched] at isSettings
      split at isSettings
      · cases isSettings
      next given =>
        cases isSettings
        exact ⟨given, rfl⟩
    refine ⟨given "name" _ named, visible, ⟨⟨archetype, listed, cloud, fromRegion⟩, ?_⟩, ?_, ?_⟩
    · intro settings isSettings
      obtain ⟨-, rfl⟩ := asked settings isSettings
      exact fits
    · exact short ▸ shortName_ne_empty visible
    · intro settings isSettings
      obtain ⟨given, rfl⟩ := asked settings isSettings
      exact ⟨given, method given, fun enabled nowhere => checked ⟨enabled, nowhere⟩⟩
  have makes : args.code.makes? = some .platform := by rw [code]; rfl
  split
  next forced =>
    refine .bind_query (.platforms now _) (run_platforms now w _) (fun _ => .refused rfl)
      fun old isOld => ?_
    cases isOld
    split
    next there =>
      -- What is deleted is listed, so that the plan fits.
      have listed : name ∈ (w.store.document.shelf (.own .platform)).map Platform.name := by
        simpa [listing, Scope.includes] using there
      exact ends_replace (.replace code forced named) rfl listed (wellMade _ rfl rfl rfl rfl)
    next => exact ends_create (.create makes named) (wellMade _ rfl rfl rfl rfl)
  next => exact ends_create (.create makes named) (wellMade _ rfl rfl rfl rfl)

/-! ### Deleting -/

/-- The names to delete are one name, or names that are listed. -/
theorem doomedNames_ends {kind : Kind} : Ends (doomedNames (service now) kind args) w
    fun result after => after = w ∧
      ∀ names, result = .ok names → Doomed args w.store.document kind names := by
  unfold doomedNames
  split
  next name given =>
    refine .pure ⟨rfl, ?_⟩
    rintro names ⟨⟩
    exact .named given
  next filter unnamed given =>
    refine .bind_query (.list now _) (run_list now w _) (fun _ => ⟨rfl, nofun⟩)
      fun items isItems => ?_
    cases isItems
    refine .bind_check (fun _ => ⟨rfl, nofun⟩) fun kept isKept => ?_
    refine .pure ⟨rfl, ?_⟩
    rintro names ⟨⟩
    exact .matched unnamed given (ok_of_mapError isKept)
  next => exact .throw ⟨rfl, nofun⟩

theorem runDelete_ends {kind : Kind} (code : args.code = .delete kind) :
    Ends (runDelete (service now) kind args) w
      (Performed now w (Asks args w.store.document)) := by
  refine .bind (doomedNames_ends.mono ?_)
  rintro result after ⟨rfl, doomed⟩
  cases result with
  | ok names =>
    have doomed := doomed names rfl
    exact .report (implements_deleteAll now kind names) fun _ same =>
      .delete (.delete code doomed) doomed.fits same
  | error e => exact .refused rfl

end Commands

/-! ### Reporting -/

theorem quiet_platforms (scope : Scope) :
    Quiet (onCatalog (Catalog.platforms (service now) scope)) :=
  fun w => .onCatalog (.platforms now scope) (by rw [run_platforms])

theorem quiet_list (shelf : Shelf) : Quiet (onCatalog (Catalog.list (service now) shelf)) :=
  fun _ => .onCatalog (.list now shelf) rfl

theorem quiet_findShown (kind : Kind) (name : String) :
    Quiet (onCatalog (findShown (service now) kind name)) := by
  intro w
  cases kind with
  | platform => exact .onCatalog (.platformByName now name .all) (by rw [run_platformByName])
  | alert | application | zone =>
    exact .onCatalog (.byName now _ name) (by rw [Uncached.run_byName])

theorem quiet_runShow (kind : Kind) : Quiet (runShow (service now) kind args) :=
  (quiet_findShown kind _).bind fun _ => quiet_say _

variable [FilterEngine]

theorem quiet_runListPlatforms (width : Nat) (visibility : Visibility) (filter : String) :
    Quiet (runListPlatforms (service now) width visibility filter) :=
  (quiet_platforms .all).bind fun _ => (quiet_platforms _).bind fun _ =>
    (quiet_check _).bind fun _ => quiet_say _

theorem quiet_runListAlerts (width : Nat) (filter : String) :
    Quiet (runListAlerts (service now) width filter) :=
  (quiet_platforms .all).bind fun _ => (quiet_list (.own .alert)).bind fun _ =>
    (quiet_check _).bind fun _ => quiet_say _

theorem quiet_runListApplications (width : Nat) (filter : String) :
    Quiet (runListApplications (service now) width filter) :=
  (quiet_list (.own .application)).bind fun _ => (quiet_check _).bind fun _ => quiet_say _

theorem quiet_runListZones (width : Nat) (filter : String) :
    Quiet (runListZones (service now) width filter) :=
  (quiet_list (.own .zone)).bind fun _ => (quiet_check _).bind fun _ => quiet_say _

/-! ### Lines -/

theorem runCommand_ends (width : Nat) {args : Args Command} (given : args.Given) :
    Ends (runCommand now width args) w (Performed now w (Asks args w.store.document)) := by
  have looks (code : args.code.looks = true) : Asks args w.store.document none := .nothing code
  unfold runCommand
  dsimp only
  split
  next code => exact .andThen (runCreatePlatform_ends code given)
  next code => exact .andThen (runCreateAlert_ends code given)
  next code => exact .andThen (runCreateApplication_ends code given)
  next code => exact .andThen (runCreateZone_ends code given)
  next code => exact .andThen ((quiet_runListPlatforms _ _ _).ends (looks (by rw [code]; rfl)))
  next code => exact .andThen ((quiet_runListAlerts _ _).ends (looks (by rw [code]; rfl)))
  next code => exact .andThen ((quiet_runListApplications _ _).ends (looks (by rw [code]; rfl)))
  next code => exact .andThen ((quiet_runListZones _ _).ends (looks (by rw [code]; rfl)))
  next code => exact .andThen ((quiet_runShow _).ends (looks (by rw [code]; rfl)))
  next code => exact .andThen (runDelete_ends code)
  next code => exact .andThen ((quiet_say _).ends (looks (by rw [code]; rfl)))
  next code => exact .pure (.looked (looks (by rw [code]; rfl)))

/-- A line that is a command ends as the command does. -/
theorem execute_of_run {shell : Shell} {line : String} {args : Args Command}
    {result : Except ShellError Outcome} {console : Console} (parsed : spec.parse line = .ok args)
    (ran : (runCommand now shell.tableWidth args).run { catalog := shell.catalog } =
      (result, console)) :
    shell.execute now line =
      ({ result, output := console.output }, { shell with catalog := console.catalog }) := by
  rw [execute, parsed]
  dsimp only
  rw [ran]

/-- The reply to a line and the workspace after it depend on the workspace before it, not on what
a coherent catalog has cached. -/
theorem exists_reply (w : Workspace) (width : Nat) (now : Instant) (line : String) :
    ∃ reply after, Performed now w (LineAsks line w.store.document) reply.result after ∧
      ∀ shell : Shell, shell.catalog.backend = w → shell.tableWidth = width →
        shell.catalog.Coherent →
        (shell.execute now line).1 = reply ∧ (shell.execute now line).2.catalog.backend = after ∧
          (shell.execute now line).2.catalog.Coherent := by
  unfold execute
  split
  next e _ =>
    exact ⟨{ result := .error (.parse e), output := "" }, w, .refused rfl,
      fun shell same _ coherent => ⟨rfl, same, coherent⟩⟩
  next args parsed =>
    obtain ⟨result, after, output, performed, runs⟩ :=
      runCommand_ends width (Spec.given_of_parse parsed) ""
    refine ⟨{ result, output }, after, performed.mono fun _ asked => ⟨args, parsed, asked⟩, ?_⟩
    rintro shell same rfl coherent
    obtain ⟨rfl, backend, rfl, still⟩ := runs { catalog := shell.catalog } same rfl coherent
    exact ⟨rfl, backend, still⟩

/-- **What a line does**: it is refused, or it does what its command asks for. Also the caches are
still true. -/
theorem execute_performed {shell : Shell} (coherent : shell.catalog.Coherent) (now : Instant)
    (line : String) :
    Performed now shell.catalog.backend (LineAsks line shell.catalog.backend.store.document)
        (shell.execute now line).1.result (shell.execute now line).2.catalog.backend ∧
      (shell.execute now line).2.catalog.Coherent := by
  obtain ⟨reply, after, performed, runs⟩ :=
    exists_reply shell.catalog.backend shell.tableWidth now line
  obtain ⟨rfl, rfl, still⟩ := runs shell rfl rfl coherent
  exact ⟨performed, still⟩

/-- Whatever a line does, it does nothing, or it carries out one plan that fits the store, and then
it succeeds if and only if the plan does. -/
theorem execute_did {shell : Shell} (coherent : shell.catalog.Coherent) (now : Instant)
    (line : String) :
    Did now shell.catalog.backend (shell.execute now line).1.result
        (shell.execute now line).2.catalog.backend ∧
      (shell.execute now line).2.catalog.Coherent :=
  (execute_performed coherent now line).imp_left Performed.did

/-- **A line does not see the caches**: shells with the same store, whatever they have cached,
give the same reply and have the same store afterwards. -/
theorem execute_congr {one other : Shell} (coherent : one.catalog.Coherent)
    (otherCoherent : other.catalog.Coherent)
    (store : one.catalog.backend = other.catalog.backend)
    (width : one.tableWidth = other.tableWidth) (now : Instant) (line : String) :
    (one.execute now line).1 = (other.execute now line).1 ∧
      (one.execute now line).2.catalog.backend = (other.execute now line).2.catalog.backend := by
  obtain ⟨reply, after, -, runs⟩ := exists_reply other.catalog.backend other.tableWidth now line
  obtain ⟨result, backend, -⟩ := runs one store width coherent
  obtain ⟨rfl, rfl, -⟩ := runs other rfl rfl otherCoherent
  exact ⟨result, backend⟩

end Steering.Shell
