import Steering.Proofs.Grammar.Walk

/-!
# What a command line is

A `Reading` takes the tokens of a line apart without looking at a walk: command words that lead
down to the first complete command, values for its positional arguments in order, and then groups
that each give one named argument. `parse_eq_ok_iff_reading` says that the parser accepts exactly
the lines that have a reading, and that the command it makes is the one the reading spells out.

The proof follows a walk through the three parts. For each part there is the walk that it leads to
(`descendAll`, `fillAll`, `takeAll`), the fact that its tokens lead there, and the fact that an
accepted line begins with such a part.
-/

namespace Steering.Grammar

variable {Code Handler Source : Type}

/-! ### Readings -/

/-- The fragments that the words, in lowercase, lead to one after the other. -/
def Fragment.trail? (f : Fragment Code Handler Source) :
    List String → Option (List (Fragment Code Handler Source))
  | [] => some []
  | word :: words =>
    (Entries.find? (Text.lower word) f.sub).bind fun child => (child.trail? words).map (child :: ·)

/-- The declaration of a name that counts at the end of a trail: the deepest one. -/
def declaredOn (trail : List (Fragment Code Handler Source)) (name : String) :
    Option (NamedArg Source) :=
  trail.reverse.findSome? fun f => f.named.get? name

/-- The handler that counts at the end of a trail: the deepest one. -/
def handlerOn (trail : List (Fragment Code Handler Source)) : Option Handler :=
  trail.reverse.findSome? fun f => f.handler

/-- Tokens that give one named argument: a flag, or a name with the value after it. -/
inductive Group where
  | flag (token : String)
  | value (token given : String)
deriving DecidableEq

namespace Group

def tokens : Group → List String
  | .flag token => [token]
  | .value token given => [token, given]

/-- The argument that is given and its value; a flag has the empty one. -/
def entry : Group → String × String
  | .flag token => (unmarked token, "")
  | .value token given => (unmarked token, given)

/-- The group fits the declarations of the fragments on a trail. -/
def Fits (trail : List (Fragment Code Handler Source)) : Group → Prop
  | .flag token =>
    isMarked token = true ∧
      ∃ arg, declaredOn trail (unmarked token) = some arg ∧ arg.isFlag = true
  | .value token given =>
    isMarked token = true ∧ isMarked given = false ∧
      ∃ arg, declaredOn trail (unmarked token) = some arg ∧ arg.isFlag = false

end Group

/-- One way to read tokens as a command of the grammar. -/
structure Reading (spec : Spec Code Handler Source) where
  words : List String
  /-- The fragments passed on the way to the command. -/
  above : List (Fragment Code Handler Source)
  /-- The command that the words lead to. -/
  fragment : Fragment Code Handler Source
  code : Code
  values : List String
  groups : List Group
  leads : spec.root.trail? words = some (above ++ [fragment])
  noneEarlier : ∀ f ∈ above, f.isTerminal = false
  isCommand : fragment.code = some code
  valuesBare : ∀ value ∈ values, isMarked value = false
  valuesFit : values.length ≤ fragment.positional.length
  /-- Only optional positional arguments may be left out. -/
  othersOptional : ∀ arg, fragment.positional[values.length]? = some arg → arg.optional = true
  groupsFit : ∀ group ∈ groups, group.Fits (above ++ [fragment])

namespace Reading

variable {spec : Spec Code Handler Source}

def tokens (r : Reading spec) : List String :=
  r.words ++ r.values ++ r.groups.flatMap Group.tokens

/-- The command that is read. Of two values given to one name the later counts. -/
def command (r : Reading spec) : ParsedCommand Code Handler where
  code := r.code
  args := Dict.ofList
    ((r.fragment.positional.map (·.name)).zip r.values ++ r.groups.map Group.entry)
  handler := handlerOn (r.above ++ [r.fragment])

end Reading

namespace Walk

/-! ### Command words -/

/-- The walk at the end of a trail. -/
def descendAll (w : Walk Code Handler Source) (trail : List (Fragment Code Handler Source)) :
    Walk Code Handler Source :=
  trail.foldl descend w

theorem descendAll_valid (w : Walk Code Handler Source)
    (trail : List (Fragment Code Handler Source)) (name : String) :
    (w.descendAll trail).valid.get? name = (declaredOn trail name).or (w.valid.get? name) := by
  induction trail generalizing w with
  | nil => rfl
  | cons f rest ih =>
    have first : (w.descend f).valid.get? name = (f.named.get? name).or (w.valid.get? name) :=
      Dict.get?_override w.valid f.named name
    have deeper : declaredOn (f :: rest) name = (declaredOn rest name).or (f.named.get? name) := by
      simp [declaredOn, List.findSome?_append]
    rw [deeper, Option.or_assoc, ← first]
    exact ih (w.descend f)

theorem descendAll_handler (w : Walk Code Handler Source)
    (trail : List (Fragment Code Handler Source)) :
    (w.descendAll trail).handler = (handlerOn trail).or w.handler := by
  induction trail generalizing w with
  | nil => rfl
  | cons f rest ih =>
    have first : (w.descend f).handler = f.handler.or w.handler := by
      simp [descend]
    have deeper : handlerOn (f :: rest) = (handlerOn rest).or f.handler := by
      simp [handlerOn, List.findSome?_append]
    rw [deeper, Option.or_assoc, ← first]
    exact ih (w.descend f)

/-- Going down leaves alone what has been given. -/
theorem descendAll_given (w : Walk Code Handler Source)
    (trail : List (Fragment Code Handler Source)) :
    (w.descendAll trail).args = w.args ∧ (w.descendAll trail).awaiting = w.awaiting := by
  induction trail generalizing w with
  | nil => exact ⟨rfl, rfl⟩
  | cons f rest ih => exact ih (w.descend f)

/-- At the end of a trail the walk stands on its last fragment, with nothing filled in yet. -/
theorem descendAll_concat (w : Walk Code Handler Source)
    (above : List (Fragment Code Handler Source)) (f : Fragment Code Handler Source) :
    (w.descendAll (above ++ [f])).fragment = f ∧
      (w.descendAll (above ++ [f])).pending = f.positional := by
  have last : w.descendAll (above ++ [f]) = (w.descendAll above).descend f := by
    simp [descendAll]
  rw [last]
  exact ⟨rfl, rfl⟩

/-- Words lead down their trail if no fragment before its end is a command. -/
theorem steps_words (line : String) (w : Walk Code Handler Source) (words : List String)
    (trail : List (Fragment Code Handler Source))
    (leads : w.fragment.trail? words = some trail)
    (noneEarlier : ∀ f ∈ (w.fragment :: trail).dropLast, f.isTerminal = false) :
    w.steps line words = .ok (w.descendAll trail) := by
  induction words generalizing w trail with
  | nil =>
    cases leads
    rfl
  | cons word rest ih =>
    rw [Fragment.trail?, Option.bind_eq_some_iff] at leads
    obtain ⟨child, found, onward⟩ := leads
    obtain ⟨deeper, further, rfl⟩ := Option.map_eq_some_iff.mp onward
    have descending : w.fragment.isTerminal = false := noneEarlier w.fragment (by simp)
    apply (Accepts.word descending found).steps
    refine ih (w.descend child) deeper further fun f member => noneEarlier f ?_
    rw [List.dropLast_cons_of_ne_nil (List.cons_ne_nil _ _)]
    exact List.mem_cons_of_mem _ member

/-- A line that comes to a command begins with words that lead to one. -/
theorem words_of_steps (line : String) (w final : Walk Code Handler Source)
    (tokens : List String) (walked : w.steps line tokens = .ok final)
    (arrived : final.fragment.isTerminal = true) :
    ∃ words rest trail, tokens = words ++ rest ∧ w.fragment.trail? words = some trail ∧
      (∀ f ∈ (w.fragment :: trail).dropLast, f.isTerminal = false) ∧
      (w.descendAll trail).fragment.isTerminal = true ∧
      (w.descendAll trail).steps line rest = .ok final := by
  induction tokens generalizing w with
  | nil =>
    cases walked
    exact ⟨[], [], [], rfl, rfl, by simp, arrived, rfl⟩
  | cons token tokens ih =>
    -- The first command that is met ends the words.
    by_cases terminal : w.fragment.isTerminal = true
    · exact ⟨[], token :: tokens, [], rfl, rfl, by simp, terminal, walked⟩
    · obtain ⟨next, accepted, onward⟩ := (steps_cons_eq_ok_iff line w token tokens final).mp walked
      cases accepted with
      | @word child descending found =>
        obtain ⟨words, rest, trail, rfl, leads, noneEarlier, ends, onward⟩ := ih _ onward
        have leads : child.trail? words = some trail := leads
        refine ⟨token :: words, rest, child :: trail, rfl, ?_, ?_, ends, onward⟩
        · simp [Fragment.trail?, found, leads]
        · rw [List.dropLast_cons_of_ne_nil (List.cons_ne_nil _ _)]
          exact List.forall_mem_cons.mpr ⟨descending, noneEarlier⟩
      | positional here | flag here | opens here | value here => exact absurd here terminal

/-! ### Positional values -/

/-- The walk after values for the next positional arguments. -/
def fillAll (w : Walk Code Handler Source) (values : List String) : Walk Code Handler Source :=
  { w with
    args := w.args.insertAll ((w.pending.map (·.name)).zip values)
    pending := w.pending.drop values.length }

theorem fillAll_nil (w : Walk Code Handler Source) : w.fillAll [] = w := by
  simp [fillAll, Dict.insertAll_nil]

theorem fillAll_cons (w : Walk Code Handler Source) {arg : PositionalArg Source}
    {rest : List (PositionalArg Source)} (due : w.pending = arg :: rest) (value : String)
    (values : List String) :
    w.fillAll (value :: values) =
      { w with args := w.args.insert arg.name value, pending := rest }.fillAll values := by
  simp [fillAll, due, Dict.insertAll_cons]

theorem steps_values (line : String) (w : Walk Code Handler Source) (values : List String)
    (terminal : w.fragment.isTerminal = true) (free : w.awaiting = none)
    (bare : ∀ value ∈ values, isMarked value = false) (fit : values.length ≤ w.pending.length) :
    w.steps line values = .ok (w.fillAll values) := by
  induction values generalizing w with
  | nil => rw [fillAll_nil, steps]
  | cons value rest ih =>
    cases due : w.pending with
    | nil => simp [due] at fit
    | cons arg others =>
      have first := bare value (by simp)
      rw [fillAll_cons w due value rest]
      apply (Accepts.positional terminal free due first).steps
      refine ih _ terminal free (fun other member => bare other (by simp [member])) ?_
      simpa [due] using fit

/-- What is accepted from a command on begins with positional values; after them the line ends or
goes on with a name. -/
theorem values_of_steps (line : String) (w final : Walk Code Handler Source)
    (tokens : List String) (terminal : w.fragment.isTerminal = true) (free : w.awaiting = none)
    (walked : w.steps line tokens = .ok final) :
    ∃ values rest, tokens = values ++ rest ∧ (∀ value ∈ values, isMarked value = false) ∧
      values.length ≤ w.pending.length ∧ (w.fillAll values).steps line rest = .ok final ∧
      (∀ token, rest.head? = some token → isMarked token = true ∧ (w.fillAll values).Skips) := by
  induction tokens generalizing w with
  | nil =>
    refine ⟨[], [], rfl, by simp, by simp, ?_, by simp⟩
    rwa [fillAll_nil]
  | cons token tokens ih =>
    obtain ⟨next, accepted, onward⟩ := (steps_cons_eq_ok_iff line w token tokens final).mp walked
    cases accepted with
    | word descending _ => simp [terminal] at descending
    | value _ awaited _ => simp [free] at awaited
    | flag _ _ skips marked _ _ | opens _ _ skips marked _ _ =>
      -- A name ends the values: it is left for what follows.
      refine ⟨[], token :: tokens, rfl, by simp, by simp, by rwa [fillAll_nil], ?_⟩
      intro other first
      cases first
      exact ⟨marked, by rwa [fillAll_nil]⟩
    | @positional arg others _ _ due bare =>
      obtain ⟨values, rest, rfl, barest, fit, further, boundary⟩ :=
        ih { w with args := w.args.insert arg.name token, pending := others } terminal free onward
      rw [← fillAll_cons w due token values] at further boundary
      refine ⟨token :: values, rest, rfl, ?_, ?_, further, boundary⟩
      · exact List.forall_mem_cons.mpr ⟨bare, barest⟩
      · simpa [due] using fit

/-! ### Named arguments -/

/-- The walk after a group. -/
def take (w : Walk Code Handler Source) (group : Group) : Walk Code Handler Source :=
  { w with
    pending := []
    supplied := group.entry.1 :: w.supplied
    args := w.args.insert group.entry.1 group.entry.2 }

/-- The walk after some groups. -/
def takeAll (w : Walk Code Handler Source) (groups : List Group) : Walk Code Handler Source :=
  groups.foldl take w

/-- Groups only give values; they do not move the walk. -/
theorem takeAll_fields (w : Walk Code Handler Source) (groups : List Group) :
    (w.takeAll groups).fragment = w.fragment ∧ (w.takeAll groups).valid = w.valid ∧
      (w.takeAll groups).handler = w.handler ∧ (w.takeAll groups).awaiting = w.awaiting ∧
      (w.takeAll groups).args = w.args.insertAll (groups.map Group.entry) := by
  induction groups generalizing w with
  | nil => exact ⟨rfl, rfl, rfl, rfl, rfl⟩
  | cons group rest ih => exact ih (w.take group)

theorem takeAll_skips (w : Walk Code Handler Source) (groups : List Group) (skips : w.Skips) :
    (w.takeAll groups).Skips := by
  induction groups generalizing w with
  | nil => exact skips
  | cons group rest ih => exact ih (w.take group) (by simp [Skips, take])

theorem steps_group (line : String) (w : Walk Code Handler Source) (group : Group)
    (trail : List (Fragment Code Handler Source))
    (terminal : w.fragment.isTerminal = true) (free : w.awaiting = none) (skips : w.Skips)
    (valid : ∀ name, w.valid.get? name = declaredOn trail name) (fits : group.Fits trail) :
    w.steps line group.tokens = .ok (w.take group) := by
  cases group with
  | flag token =>
    obtain ⟨marked, arg, declared, isFlag⟩ := fits
    rw [← valid] at declared
    exact (Accepts.flag terminal free skips marked declared isFlag).steps rfl
  | value token given =>
    obtain ⟨marked, bare, arg, declared, isValue⟩ := fits
    rw [← valid] at declared
    apply (Accepts.opens terminal free skips marked declared isValue).steps
    refine Accepts.steps (.value terminal rfl bare) ?_
    simp [steps, take, Group.entry, free]

theorem steps_groups (line : String) (w : Walk Code Handler Source) (groups : List Group)
    (trail : List (Fragment Code Handler Source))
    (terminal : w.fragment.isTerminal = true) (free : w.awaiting = none) (skips : w.Skips)
    (valid : ∀ name, w.valid.get? name = declaredOn trail name)
    (fit : ∀ group ∈ groups, group.Fits trail) :
    w.steps line (groups.flatMap Group.tokens) = .ok (w.takeAll groups) := by
  induction groups generalizing w with
  | nil => rfl
  | cons group rest ih =>
    have first := steps_group line w group trail terminal free skips valid (fit group (by simp))
    rw [List.flatMap_cons, steps_append, first]
    exact ih (w.take group) terminal free (by simp [Skips, take]) valid
      fun other member => fit other (by simp [member])

/-- What is accepted once the positional values are over is a row of groups. The recursion takes
a group at a time, so one or two tokens. -/
theorem groups_of_steps (line : String) (trail : List (Fragment Code Handler Source))
    (final : Walk Code Handler Source) (complete : final.awaiting = none) :
    (tokens : List String) → (w : Walk Code Handler Source) →
    w.fragment.isTerminal = true → w.awaiting = none →
    (∀ name, w.valid.get? name = declaredOn trail name) →
    (w.pending = [] ∨ ∀ token, tokens.head? = some token → isMarked token = true) →
    w.steps line tokens = .ok final →
    ∃ groups, tokens = groups.flatMap Group.tokens ∧ (∀ group ∈ groups, group.Fits trail) ∧
      final = w.takeAll groups
  | [], w, _, _, _, _, walked => by
    cases walked
    exact ⟨[], rfl, by simp, rfl⟩
  | token :: tokens, w, terminal, free, valid, filled, walked => by
    obtain ⟨next, accepted, onward⟩ := (steps_cons_eq_ok_iff line w token tokens final).mp walked
    cases accepted with
    | word descending _ => simp [terminal] at descending
    | value _ awaited _ => simp [free] at awaited
    | positional _ _ due bare =>
      rcases filled with nothingDue | marked
      · simp [nothingDue] at due
      · simp [marked token rfl] at bare
    | flag _ _ _ marked declared isFlag =>
      obtain ⟨groups, rfl, fit, rfl⟩ := groups_of_steps line trail final complete tokens
        (w.take (.flag token)) terminal free valid (Or.inl rfl) onward
      rw [valid] at declared
      have first : (Group.flag token).Fits trail := ⟨marked, _, declared, isFlag⟩
      exact ⟨.flag token :: groups, rfl, List.forall_mem_cons.mpr ⟨first, fit⟩, rfl⟩
    | opens _ _ _ marked declared isValue =>
      match tokens, onward with
      | [], onward =>
        -- The line ends where the value should be, but nothing is awaited at its end.
        cases onward
        simp at complete
      | given :: tokens, onward =>
        obtain ⟨next, accepted, onward⟩ :=
          (steps_cons_eq_ok_iff line _ given tokens final).mp onward
        cases accepted with
        | word descending _ => simp [terminal] at descending
        | positional _ free _ _ | flag _ free _ _ _ _ | opens _ free _ _ _ _ => simp at free
        | value _ awaited bare =>
          cases awaited
          have taken : (w.take (.value token given)).steps line tokens = .ok final := by
            simpa [take, Group.entry, free] using onward
          obtain ⟨groups, rfl, fit, rfl⟩ := groups_of_steps line trail final complete tokens
            (w.take (.value token given)) terminal free valid (Or.inl rfl) taken
          rw [valid] at declared
          have first : (Group.value token given).Fits trail :=
            ⟨marked, bare, _, declared, isValue⟩
          exact ⟨.value token given :: groups, rfl, List.forall_mem_cons.mpr ⟨first, fit⟩, rfl⟩

end Walk

/-! ### The three parts together -/

namespace Reading

variable {spec : Spec Code Handler Source}

/-- The fragments that a reading passes; the command is the last of them. -/
def trail (r : Reading spec) : List (Fragment Code Handler Source) := r.above ++ [r.fragment]

/-- The walk after the command words of a reading. -/
def arrived (r : Reading spec) : Walk Code Handler Source :=
  (Walk.start spec.root).descendAll r.trail

/-- The walk after all tokens of a reading. -/
def walk (r : Reading spec) : Walk Code Handler Source :=
  (r.arrived.fillAll r.values).takeAll r.groups

theorem arrived_fragment (r : Reading spec) : r.arrived.fragment = r.fragment :=
  (Walk.descendAll_concat _ r.above r.fragment).1

theorem arrived_pending (r : Reading spec) : r.arrived.pending = r.fragment.positional :=
  (Walk.descendAll_concat _ r.above r.fragment).2

theorem arrived_terminal (r : Reading spec) : r.arrived.fragment.isTerminal = true := by
  rw [arrived_fragment, Fragment.isTerminal, r.isCommand]
  rfl

theorem arrived_free (r : Reading spec) : r.arrived.awaiting = none :=
  (Walk.descendAll_given _ r.trail).2

theorem arrived_valid (r : Reading spec) (name : String) :
    r.arrived.valid.get? name = declaredOn r.trail name := by
  rw [arrived, Walk.descendAll_valid]
  exact Option.or_none

theorem filled_skips (r : Reading spec) : (r.arrived.fillAll r.values).Skips := by
  intro arg first
  simp only [Walk.fillAll, arrived_pending, List.head?_drop] at first
  exact r.othersOptional arg first

/-- The tokens of a reading are accepted. -/
theorem walk_tokens (r : Reading spec) (line : String) : spec.walk line r.tokens = .ok r.walk := by
  have early : ∀ f ∈ (spec.root :: r.trail).dropLast, f.isTerminal = false := by
    intro f member
    rw [trail, ← List.cons_append, List.dropLast_concat, List.mem_cons] at member
    rcases member with rfl | passed
    · rfl
    · exact r.noneEarlier f passed
  have byWords : (Walk.start spec.root).steps line r.words = .ok r.arrived :=
    Walk.steps_words line (Walk.start spec.root) r.words r.trail r.leads early
  have byValues : r.arrived.steps line r.values = .ok (r.arrived.fillAll r.values) := by
    apply Walk.steps_values line _ _ r.arrived_terminal r.arrived_free r.valuesBare
    rw [arrived_pending]
    exact r.valuesFit
  have byGroups := Walk.steps_groups line (r.arrived.fillAll r.values) r.groups r.trail
    r.arrived_terminal r.arrived_free r.filled_skips r.arrived_valid r.groupsFit
  rw [Spec.walk, tokens, Walk.steps_append_eq_ok_iff]
  exact ⟨_, (Walk.steps_append_eq_ok_iff line _ _ _ _).mpr ⟨_, byWords, byValues⟩, byGroups⟩

theorem walk_finish (r : Reading spec) : r.walk.finish = .ok r.command := by
  obtain ⟨fragment, _, handler, awaiting, args⟩ :=
    Walk.takeAll_fields (r.arrived.fillAll r.values) r.groups
  refine (Walk.finish_eq_ok_iff _ _).mpr ⟨?_, ?_, r.code, ?_, ?_⟩
  · exact Walk.takeAll_skips _ _ r.filled_skips
  · exact awaiting.trans r.arrived_free
  · rw [walk, fragment]
    exact (congrArg Fragment.code r.arrived_fragment).trans r.isCommand
  · have noArgs : r.arrived.args = {} := (Walk.descendAll_given _ r.trail).1
    have allArgs : r.walk.args = r.command.args := by
      rw [walk, args, command, ← Dict.insertAll_empty, Dict.insertAll_append, Walk.fillAll,
        arrived_pending, noArgs]
    have allHandlers : r.walk.handler = r.command.handler := by
      rw [walk, handler, command]
      exact (Walk.descendAll_handler _ r.trail).trans Option.or_none
    rw [allArgs, allHandlers]
    rfl

/-- An accepted line that makes a command has a reading that ends in the same walk. -/
theorem exists_of_walk {line : String} {tokens : List String} {w : Walk Code Handler Source}
    {cmd : ParsedCommand Code Handler} (walked : spec.walk line tokens = .ok w)
    (finished : w.finish = .ok cmd) : ∃ r : Reading spec, r.tokens = tokens ∧ r.walk = w := by
  obtain ⟨skips, free, code, isCommand, rfl⟩ := (Walk.finish_eq_ok_iff w cmd).mp finished
  have terminal : w.fragment.isTerminal = true := by simp [Fragment.isTerminal, isCommand]
  obtain ⟨words, rest, trail, rfl, leads, early, ends, onward⟩ :=
    Walk.words_of_steps line _ w tokens walked terminal
  -- The root is no command, so the trail has an end below it.
  rcases List.eq_nil_or_concat trail with rfl | ⟨above, f, rfl⟩
  · cases ends
  rw [List.concat_eq_append] at leads early ends onward
  obtain ⟨atCommand, due⟩ := Walk.descendAll_concat (Walk.start spec.root) above f
  have unawaited := (Walk.descendAll_given (Walk.start spec.root) (above ++ [f])).2
  obtain ⟨values, rest, rfl, bare, fit, onward, boundary⟩ :=
    Walk.values_of_steps line _ w rest ends unawaited onward
  obtain ⟨groups, rfl, groupsFit, rfl⟩ := Walk.groups_of_steps line (above ++ [f]) w free rest
    (((Walk.start spec.root).descendAll (above ++ [f])).fillAll values) ends unawaited
    (fun name => (Walk.descendAll_valid _ (above ++ [f]) name).trans Option.or_none)
    (Or.inr fun token first => (boundary token first).1) onward
  have code : f.code = some code := by
    rw [(Walk.takeAll_fields _ groups).1] at isCommand
    exact (congrArg Fragment.code atCommand).symm.trans isCommand
  -- A group says that no required value was due; without groups the end of the line says it.
  have skipsFilled :
      (((Walk.start spec.root).descendAll (above ++ [f])).fillAll values).Skips := by
    cases groups with
    | nil => exact skips
    | cons group others =>
      cases group with
      | flag token => exact (boundary token rfl).2
      | value token given => exact (boundary token rfl).2
  refine ⟨⟨words, above, f, _, values, groups, leads, ?_, code, bare, ?_, ?_, groupsFit⟩, ?_, rfl⟩
  · intro passed member
    apply early passed
    rw [← List.cons_append, List.dropLast_concat]
    exact List.mem_cons_of_mem _ member
  · rwa [due] at fit
  · intro arg first
    apply skipsFilled arg
    rw [Walk.fillAll, due, List.head?_drop]
    exact first
  · rw [tokens, List.append_assoc]

end Reading

/-- **The parser accepts exactly what the grammar derives**: a line is a command exactly if its
words have a reading, and the command is the one that is read. -/
theorem parse_eq_ok_iff_reading (spec : Spec Code Handler Source) (line : String)
    (cmd : ParsedCommand Code Handler) :
    spec.parse line = .ok cmd ↔
      ∃ r : Reading spec, r.tokens = (Line.split line).words ∧ r.command = cmd := by
  rw [Spec.parse_eq_ok_iff_walk]
  constructor
  · rintro ⟨w, walked, finished⟩
    obtain ⟨r, tokens, rfl⟩ := Reading.exists_of_walk walked finished
    rw [r.walk_finish] at finished
    exact ⟨r, tokens, Except.ok.inj finished⟩
  · rintro ⟨r, tokens, rfl⟩
    rw [← tokens]
    exact ⟨r.walk, r.walk_tokens line, r.walk_finish⟩

end Steering.Grammar
