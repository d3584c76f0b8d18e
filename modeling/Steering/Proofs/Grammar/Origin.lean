import Mathlib.Data.List.Nodup
import Steering.Proofs.Grammar.Commands

/-!
# Where the arguments of a command come from

Positional values, flags and the values of named arguments all go into one dictionary, where the
last entry of a name counts. `parse_origins` says that in a grammar without defects this loses
nothing: what is in the dictionary is what the line gives, argument by argument
(`Reading.Gives`), and a positional argument has its name for itself.

The reason is what a grammar without defects promises of one fragment. Its positional arguments
have different names, and none of them has the name of a named argument that is declared on it or
above it (`Fragment.ownDefects_of_trail?`, `positionalDefects_names`). A given name is declared by
one of these fragments.
-/

namespace Steering.Grammar

variable {Code Handler Source : Type}

/-! ### Names on a trail -/

/-- Nothing is wrong with what a word leads to, nor below it. -/
theorem clean_of_defectsAmong {path inherited : List String} {word : String}
    {sub : List (String × Fragment Code Handler Source)} {child : Fragment Code Handler Source}
    (clean : defectsAmong path inherited sub = []) (found : Entries.find? word sub = some child) :
    child.ownDefects (path ++ [word]) inherited = [] ∧
      child.defectsBelow (path ++ [word]) (child.named.keys ++ inherited) = [] := by
  induction sub with
  | nil => cases found
  | cons head rest ih =>
    obtain ⟨first, f⟩ := head
    obtain ⟨⟨-, -, own, below⟩, others⟩ := defectsAmong_cons_eq_nil_iff.mp clean
    rw [Entries.find?] at found
    split at found
    next same =>
      cases found
      subst same
      exact ⟨own, below⟩
    next => exact ih others found

/-- The fragment at the end of a trail has been checked against all names declared on the way. -/
theorem Fragment.ownDefects_of_trail? {f g : Fragment Code Handler Source}
    {path inherited words : List String} {above : List (Fragment Code Handler Source)}
    (clean : f.defectsBelow path inherited = []) (leads : f.trail? words = some (above ++ [g])) :
    ∃ here names, g.ownDefects here names = [] ∧ (∀ name ∈ inherited, name ∈ names) ∧
      ∀ h ∈ above, ∀ name ∈ h.named.keys, name ∈ names := by
  induction words generalizing f path inherited above with
  | nil => simp [trail?] at leads
  | cons word rest ih =>
    rw [trail?, Option.bind_eq_some_iff] at leads
    obtain ⟨child, found, onward⟩ := leads
    obtain ⟨deeper, leads, trail⟩ := Option.map_eq_some_iff.mp onward
    rw [defectsBelow_eq] at clean
    obtain ⟨own, below⟩ := clean_of_defectsAmong clean found
    cases above with
    | nil =>
      cases trail
      exact ⟨_, inherited, own, fun _ member => member, by simp⟩
    | cons h above =>
      obtain ⟨rfl, rfl⟩ := List.cons.inj trail
      obtain ⟨here, names, sound, kept, passed⟩ := ih below leads
      refine ⟨here, names, sound, fun name member => kept name (List.mem_append_right _ member), ?_⟩
      exact List.forall_mem_cons.mpr
        ⟨fun name member => kept name (List.mem_append_left _ member), passed⟩

/-- Positional arguments without defects have different names, all of them new. -/
theorem positionalDefects_names {path names : List String} {seen : Bool}
    {args : List (PositionalArg Source)} (clean : positionalDefects path names seen args = []) :
    (args.map (·.name)).Nodup ∧ ∀ arg ∈ args, arg.name ∉ names := by
  have apart : ∀ name, .duplicateArgument path name ∉ positionalDefects path names seen args := by
    simp [clean]
  simp only [duplicateArgument_mem_positional, not_or] at apart
  exact ⟨List.nodup_iff_sublist.mpr fun name => (apart name).2, fun arg member taken =>
    (apart arg.name).1 ⟨List.mem_map_of_mem member, taken⟩⟩

/-- From an optional positional argument on all are optional. -/
theorem positionalDefects_order {path names : List String} {seen : Bool}
    {args : List (PositionalArg Source)} (clean : positionalDefects path names seen args = []) :
    args.Pairwise fun earlier later => earlier.optional = true → later.optional = true := by
  refine List.pairwise_iff_forall_sublist.mpr fun {earlier later} sublist optional => ?_
  by_contra required
  have listed : .requiredAfterOptional path later.name ∈ positionalDefects path names seen args :=
    requiredAfterOptional_mem_positional.mpr
      ⟨later, rfl, Bool.eq_false_iff.mpr required, Or.inr ⟨earlier, optional, sublist⟩⟩
  rw [clean] at listed
  cases listed

theorem mem_keys_of_declaredOn {trail : List (Fragment Code Handler Source)} {name : String}
    {arg : NamedArg Source} (declared : declaredOn trail name = some arg) :
    ∃ f ∈ trail, name ∈ f.named.keys := by
  obtain ⟨f, member, own⟩ := List.exists_of_findSome?_eq_some declared
  exact ⟨f, List.mem_reverse.mp member,
    Dict.contains_iff.mp (Dict.contains_iff_exists.mpr ⟨arg, own⟩)⟩

/-- The name in a group is declared on the trail. -/
theorem Group.Fits.declared {trail : List (Fragment Code Handler Source)} {group : Group}
    (fits : group.Fits trail) : ∃ arg, declaredOn trail group.entry.1 = some arg := by
  cases group with
  | flag token =>
    obtain ⟨_, arg, declared, _⟩ := fits
    exact ⟨arg, declared⟩
  | value token given =>
    obtain ⟨_, _, arg, declared, _⟩ := fits
    exact ⟨arg, declared⟩

/-- A name that is given as a flag is not given with a value. -/
theorem Group.Fits.flag_value {trail : List (Fragment Code Handler Source)}
    {token other given : String} (flag : (Group.flag token).Fits trail)
    (value : (Group.value other given).Fits trail) : unmarked other ≠ unmarked token := by
  intro same
  obtain ⟨_, arg, declared, isFlag⟩ := flag
  obtain ⟨_, _, arg', declared', isValue⟩ := value
  rw [same, declared, Option.some.injEq] at declared'
  subst declared'
  rw [isFlag] at isValue
  cases isValue

/-! ### What a reading gives -/

namespace Reading

variable {spec : Spec Code Handler Source}

/-- The line gives the value to the argument: at the place of a positional argument, by a flag, or
by the last group that names an argument with a value. -/
inductive Gives (r : Reading spec) : String → String → Prop where
  | positional {i : Nat} {arg : PositionalArg Source} {value : String}
      (declared : r.fragment.positional[i]? = some arg) (given : r.values[i]? = some value) :
      Gives r arg.name value
  | flag {token : String} (given : Group.flag token ∈ r.groups) : Gives r (unmarked token) ""
  | value {before after : List Group} {token value : String}
      (given : r.groups = before ++ .value token value :: after)
      (last : ∀ group ∈ after, group.entry.1 ≠ unmarked token) :
      Gives r (unmarked token) value

/-- The positional arguments with their values. -/
def filled (r : Reading spec) : List (String × String) :=
  (r.fragment.positional.map (·.name)).zip r.values

theorem mem_filled_iff (r : Reading spec) {name value : String} :
    (name, value) ∈ r.filled ↔ ∃ (i : Nat) (arg : PositionalArg Source),
      r.fragment.positional[i]? = some arg ∧ arg.name = name ∧ r.values[i]? = some value := by
  simp only [filled, List.mem_iff_getElem?, List.getElem?_zip_eq_some, List.getElem?_map,
    Option.map_eq_some_iff]
  grind

/-- The fragments of the trail of a reading have been checked together. -/
theorem clean (r : Reading spec) (valid : spec.defects = []) :
    ∃ path names, positionalDefects path names false r.fragment.positional = [] ∧
      ∀ f ∈ r.trail, ∀ name ∈ f.named.keys, name ∈ names := by
  have below : spec.root.defectsBelow [] [] = [] := by
    rw [Fragment.defectsBelow_eq]
    exact valid
  obtain ⟨path, names, own, -, passed⟩ := Fragment.ownDefects_of_trail? below r.leads
  rw [Fragment.ownDefects, List.append_eq_nil_iff] at own
  refine ⟨path, _, own.2, fun f member name declared => ?_⟩
  rcases List.mem_append.mp member with member | member
  · exact List.mem_append_right _ (passed f member name declared)
  · rw [List.mem_singleton.mp member] at declared
    exact List.mem_append_left _ declared

/-- A positional argument shares its name with no other argument of the line. -/
theorem names_apart (r : Reading spec) (valid : spec.defects = []) :
    (r.fragment.positional.map (·.name)).Nodup ∧
      ∀ arg ∈ r.fragment.positional, ∀ group ∈ r.groups, group.entry.1 ≠ arg.name := by
  obtain ⟨path, names, clean, declared⟩ := r.clean valid
  obtain ⟨distinct, fresh⟩ := positionalDefects_names clean
  refine ⟨distinct, fun arg member group given same => fresh arg member ?_⟩
  obtain ⟨_, found⟩ := (r.groupsFit group given).declared
  obtain ⟨f, passed, own⟩ := mem_keys_of_declaredOn found
  rw [← same]
  exact declared f passed _ own

/-- All positional arguments that a line leaves out are optional. -/
theorem required_filled (r : Reading spec) (valid : spec.defects = []) {i : Nat}
    {arg : PositionalArg Source} (declared : r.fragment.positional[i]? = some arg)
    (required : arg.optional = false) : i < r.values.length := by
  by_contra beyond
  obtain ⟨path, names, clean, -⟩ := r.clean valid
  obtain ⟨within, rfl⟩ := List.getElem?_eq_some_iff.mp declared
  have firstWithin : r.values.length < r.fragment.positional.length := by omega
  have first := r.othersOptional _ (List.getElem?_eq_getElem firstWithin)
  have optional : r.fragment.positional[i].optional = true := by
    rcases Nat.lt_or_eq_of_le (Nat.le_of_not_lt beyond) with earlier | same
    · exact List.pairwise_iff_getElem.mp (positionalDefects_order clean) _ _ firstWithin within
        earlier first
    · simpa only [← same] using first
  rw [required] at optional
  cases optional

/-- The last group of a name is the last of the entries with that name. -/
theorem last_groups_iff {groups : List Group} {name value : String} :
    Entries.Last name value (groups.map Group.entry) ↔
      ∃ before group after, groups = before ++ group :: after ∧ group.entry = (name, value) ∧
        ∀ later ∈ after, later.entry.1 ≠ name := by
  simp only [Entries.Last, List.map_eq_append_iff, List.map_eq_cons_iff]
  constructor
  · rintro ⟨_, _, ⟨before, _, rfl, rfl, group, after, rfl, entry, rfl⟩, last⟩
    exact ⟨before, group, after, rfl, entry, fun _ member => last _ (List.mem_map_of_mem member)⟩
  · rintro ⟨before, group, after, rfl, entry, last⟩
    exact ⟨_, _, ⟨before, _, rfl, rfl, group, after, rfl, entry, rfl⟩, List.forall_mem_map.mpr last⟩

/-- **The dictionary of a command holds what its line gives**, and nothing else. -/
theorem arg?_command_iff (r : Reading spec) (valid : spec.defects = []) {name value : String} :
    r.command.arg? name = some value ↔ r.Gives name value := by
  obtain ⟨distinct, apart⟩ := r.names_apart valid
  have distinctFilled : (r.filled.map (·.1)).Nodup := by
    rw [filled, List.zip_eq_zip_take_min, List.map_fst_zip (by simp)]
    exact distinct.sublist (List.take_sublist _ _)
  have entries : r.command.arg? name = some value ↔
      Entries.Last name value (r.groups.map Group.entry) ∨
        (∀ e ∈ r.groups.map Group.entry, e.1 ≠ name) ∧ (name, value) ∈ r.filled := by
    rw [← Entries.last_iff_mem distinctFilled, ← Entries.last_append_iff]
    exact Dict.get?_ofList_eq_some_iff
  rw [entries, last_groups_iff, mem_filled_iff]
  constructor
  · rintro (⟨before, group, after, groups, entry, last⟩ | ⟨-, i, arg, declared, rfl, given⟩)
    · cases group with
      | flag token =>
        obtain ⟨rfl, rfl⟩ := Prod.mk.inj entry
        exact .flag (groups ▸ List.mem_append_right _ List.mem_cons_self)
      | value token given =>
        obtain ⟨rfl, rfl⟩ := Prod.mk.inj entry
        exact .value groups last
    · exact .positional declared given
  · intro gives
    cases gives with
    | positional declared given =>
      have here := List.mem_of_getElem? declared
      exact .inr ⟨List.forall_mem_map.mpr (apart _ here), _, _, declared, rfl, given⟩
    | @flag token given =>
      have there : unmarked token ∈ (r.groups.map Group.entry).map (·.1) :=
        List.mem_map.mpr ⟨_, List.mem_map_of_mem given, rfl⟩
      obtain ⟨value, last⟩ := Entries.exists_last there
      obtain ⟨before, group, after, groups, entry, last⟩ := last_groups_iff.mp last
      -- The last group of the name may be another one, but it is a flag as well.
      have lastFits := r.groupsFit group (groups ▸ List.mem_append_right _ List.mem_cons_self)
      cases group with
      | flag other =>
        obtain ⟨same, -⟩ := Prod.mk.inj entry
        exact .inl ⟨before, .flag other, after, groups, by rw [Group.entry, same], last⟩
      | value other given' =>
        exact absurd (Prod.mk.inj entry).1 ((r.groupsFit _ given).flag_value lastFits)
    | value given last => exact .inl ⟨_, _, _, given, rfl, last⟩

end Reading

/-- **Every argument of a command has one origin.** In a grammar without defects take a line that
is a command, and the way it is read. All required positional arguments have a value, no two
positional arguments have one name, and no named argument that is given has the name of a
positional one. The arguments of the command are then exactly those that the line gives: the
positional values at their places, the empty text for each flag, and for each named argument with a
value the one given last. -/
theorem parse_origins (spec : Spec Code Handler Source) (valid : spec.defects = []) {line : String}
    {cmd : ParsedCommand Code Handler} (parsed : spec.parse line = .ok cmd) :
    (∃ r : Reading spec, r.tokens = (Line.split line).words) ∧
    ∀ r : Reading spec, r.tokens = (Line.split line).words →
      r.fragment.code = some cmd.code ∧
      (∀ (i : Nat) (arg : PositionalArg Source), r.fragment.positional[i]? = some arg →
        arg.optional = false → i < r.values.length) ∧
      (r.fragment.positional.map (·.name)).Nodup ∧
      (∀ arg ∈ r.fragment.positional, ∀ group ∈ r.groups, group.entry.1 ≠ arg.name) ∧
      ∀ name value, cmd.arg? name = some value ↔ r.Gives name value := by
  obtain ⟨w, walked, finished⟩ := (spec.parse_eq_ok_iff_walk line cmd).mp parsed
  obtain ⟨some, tokens, -⟩ := Reading.exists_of_walk walked finished
  refine ⟨⟨some, tokens⟩, fun r tokens => ?_⟩
  -- All readings of the line end in the same walk, so they spell out the same command.
  have same : r.command = cmd := by
    have alike := r.walk_tokens line
    rw [tokens, walked, Except.ok.injEq] at alike
    rw [alike, r.walk_finish, Except.ok.injEq] at finished
    exact finished
  subst same
  obtain ⟨distinct, apart⟩ := r.names_apart valid
  exact ⟨r.isCommand, fun i arg => r.required_filled valid, distinct, apart,
    fun name value => r.arg?_command_iff valid⟩

/-- A grammar with one command that has arguments of every kind, some of them declared above it. -/
def alertGrammar : Spec Nat String String :=
  .ofCommands [
    ("create",
      { description := "Create resources"
        named := .ofList [("force", { description := "Replace what is there", isFlag := true })]
        sub := [
          ("alert",
            { description := "Create an alert"
              positional := [
                { name := "name", description := "Alert name" },
                { name := "platform", description := "What to watch", optional := true }]
              named := .ofList [("note", { description := "Text of the alert" })]
              code := some 1 })] })]

/-- A note that is given twice, with a flag between: the last one counts, and it comes from its
own argument. -/
theorem parse_origins_create_alert :
    ∃ cmd, alertGrammar.parse "create alert down edge -note old -force -note new" = .ok cmd ∧
      cmd.arg? "note" = some "new" ∧ cmd.arg? "name" = some "down" ∧
      ∃ r : Reading alertGrammar,
        r.Gives "note" "new" ∧ r.Gives "name" "down" ∧ ¬ r.Gives "note" "old" := by
  have parsed : alertGrammar.parse "create alert down edge -note old -force -note new" = .ok
      { code := 1
        args := .ofList [("name", "down"), ("platform", "edge"), ("force", ""), ("note", "new")]
        handler := none } := rfl
  refine ⟨_, parsed, by decide, by decide, ?_⟩
  obtain ⟨⟨r, tokens⟩, origins⟩ := parse_origins alertGrammar (by decide) parsed
  obtain ⟨-, -, -, -, given⟩ := origins r tokens
  exact ⟨r, (given _ _).mp (by decide), (given _ _).mp (by decide),
    fun old => absurd ((given _ _).mpr old) (by decide)⟩

end Steering.Grammar
