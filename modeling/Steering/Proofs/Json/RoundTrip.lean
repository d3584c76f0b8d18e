import Steering.Proofs.Json.Scan

/-!
# What has been written is read back

A value is *plain* if it is made of null, truth values, natural numbers, strings, arrays and
objects. A text *writes* a value if it spells tokens that the reader puts together to that value,
wherever a value may begin (`Writes`). The scalars write themselves, and a bracket of texts that
write values, with blanks between them, writes their array or object. Both layouts of the printer
are such brackets, so that plain values are read back from either (`parse?_compact`,
`parse?_pretty`).
-/

namespace Steering.Json

/-- Values without numbers that are no natural numbers, and without broken surrogate pairs. -/
inductive Plain : Json → Prop
  | null : Plain .null
  | bool (b : Bool) : Plain (.bool b)
  | natural (n : Nat) : Plain (.natural n)
  | string (s : String) : Plain (.string s)
  | array {items : List Json} (plain : ∀ item ∈ items, Plain item) : Plain (.array items)
  | object {members : List (String × Json)} (plain : ∀ member ∈ members, Plain member.2) :
    Plain (.object members)

/-! ### What tokens stand for -/

namespace Reading

/-- Takes tokens one after the other. -/
def steps (r : Reading) (tokens : List Token) : Option Reading := tokens.foldlM step r

theorem steps_cons (r : Reading) (token : Token) (tokens : List Token) :
    r.steps (token :: tokens) = (r.step token).bind fun r => r.steps tokens := rfl

theorem steps_append (r : Reading) (tokens others : List Token) :
    r.steps (tokens ++ others) = (r.steps tokens).bind fun r => r.steps others :=
  List.foldlM_append

end Reading

/-- The reader takes the tokens for the value, wherever a value may begin. -/
def Denotes (tokens : List Token) (value : Json) : Prop :=
  ∀ frames phase, phase = .value ∨ phase = .firstItem →
    Reading.steps { open_ := frames, phase } tokens = Reading.complete value frames

/-- Lists of tokens with a comma between any two. -/
def joined : List (List Token) → List Token
  | [] => []
  | tokens :: rest => tokens ++ rest.flatMap (.comma :: ·)

/-- The tokens are those of a member of an object. -/
def DenotesMember (tokens : List Token) (member : String × Json) : Prop :=
  ∃ others, Denotes others member.2 ∧ tokens = .string (some member.1) :: .colon :: others

namespace Denotes

theorem scalar (value : Json) : Denotes [.scalar value] value := by
  rintro frames _ (rfl | rfl) <;> exact Option.bind_fun_some _

theorem string (s : String) : Denotes [.string (some s)] (.string s) := by
  rintro frames _ (rfl | rfl) <;> exact Option.bind_fun_some _

variable {texts : List (List Token)} {items : List Json} {members : List (String × Json)}

/-- The items after the first one are read one after the other. -/
theorem steps_items (denote : List.Forall₂ Denotes texts items) (done : List Json)
    (frames : List Frame) :
    Reading.steps { open_ := .array done :: frames, phase := .separator }
        (texts.flatMap (.comma :: ·)) =
      some { open_ := .array (items.reverse ++ done) :: frames, phase := .separator } := by
  induction denote generalizing done with
  | nil => rfl
  | @cons tokens item texts items first _ ih =>
    rw [List.flatMap_cons, List.cons_append, Reading.steps_cons]
    change (Reading.steps { open_ := .array done :: frames, phase := .value } _) = _
    rw [Reading.steps_append, first _ _ (.inl rfl)]
    change Reading.steps { open_ := .array (item :: done) :: frames, phase := .separator } _ = _
    rw [ih, List.reverse_cons, List.append_assoc]
    rfl

theorem array (denote : List.Forall₂ Denotes texts items) :
    Denotes (.openArray :: joined texts ++ [.closeArray]) (.array items) := by
  intro frames phase begins
  have opened : Reading.step { open_ := frames, phase } .openArray =
      some { open_ := .array [] :: frames, phase := .firstItem } := by
    rcases begins with rfl | rfl <;> rfl
  rw [List.cons_append, Reading.steps_cons, opened, Option.bind_some]
  cases denote with
  | nil => exact Option.bind_fun_some _
  | @cons tokens item texts items first others =>
    rw [joined, List.append_assoc, Reading.steps_append, first _ _ (.inr rfl)]
    change Reading.steps { open_ := .array [item] :: frames, phase := .separator } _ = _
    rw [Reading.steps_append, steps_items others, Option.bind_some, Reading.steps_cons]
    change (Reading.complete (.array (items.reverse ++ [item]).reverse) frames).bind _ = _
    rw [List.reverse_append, List.reverse_reverse]
    exact Option.bind_fun_some _

/-- A member is read after the ones that are there, if there may be a key. -/
theorem steps_member {tokens : List Token} {member : String × Json}
    (denotes : DenotesMember tokens member) (done : List (Key × Json)) (frames : List Frame)
    {phase : Phase} (begins : phase = .firstKey ∨ phase = .key) :
    Reading.steps { open_ := .object done :: frames, phase } tokens =
      some { open_ := .object ((some member.1, member.2) :: done) :: frames,
             phase := .separator } := by
  obtain ⟨others, denotes, rfl⟩ := denotes
  have keyed : Reading.step { open_ := .object done :: frames, phase } (.string (some member.1)) =
      some { open_ := .member done (some member.1) :: frames, phase := .colon } := by
    rcases begins with rfl | rfl <;> rfl
  rw [Reading.steps_cons, keyed, Option.bind_some, Reading.steps_cons]
  exact denotes _ .value (.inl rfl)

theorem steps_members (denote : List.Forall₂ DenotesMember texts members)
    (done : List (Key × Json)) (frames : List Frame) :
    Reading.steps { open_ := .object done :: frames, phase := .separator }
        (texts.flatMap (.comma :: ·)) =
      some { open_ := .object ((members.map fun m => (some m.1, m.2)).reverse ++ done) :: frames,
             phase := .separator } := by
  induction denote generalizing done with
  | nil => rfl
  | @cons tokens member texts members first _ ih =>
    rw [List.flatMap_cons, List.cons_append, Reading.steps_cons]
    change (Reading.steps { open_ := .object done :: frames, phase := .key } _) = _
    rw [Reading.steps_append, steps_member first _ _ (.inr rfl), Option.bind_some, ih,
      List.map_cons, List.reverse_cons, List.append_assoc]
    rfl

theorem objectOf_members (members : List (String × Json)) :
    Reading.objectOf (members.map fun m => (some m.1, m.2)) = .object members := by
  have keyed : (members.map fun m => ((some m.1, m.2) : Key × Json)).mapM
      (fun m => m.1.map (·, m.2)) = some members := by
    induction members with
    | nil => rfl
    | cons member members ih =>
      rw [List.map_cons, List.mapM_cons, ih]
      rfl
  unfold Reading.objectOf
  split
  next found =>
    cases found.symm.trans keyed
    rfl
  next none => cases none.symm.trans keyed

theorem object (denote : List.Forall₂ DenotesMember texts members) :
    Denotes (.openObject :: joined texts ++ [.closeObject]) (.object members) := by
  intro frames phase begins
  have opened : Reading.step { open_ := frames, phase } .openObject =
      some { open_ := .object [] :: frames, phase := .firstKey } := by
    rcases begins with rfl | rfl <;> rfl
  rw [List.cons_append, Reading.steps_cons, opened, Option.bind_some]
  cases denote with
  | nil => exact Option.bind_fun_some _
  | @cons tokens member texts members first others =>
    rw [joined, List.append_assoc, Reading.steps_append, steps_member first _ _ (.inl rfl),
      Option.bind_some, Reading.steps_append, steps_members others, Option.bind_some,
      Reading.steps_cons]
    change (Reading.complete (Reading.objectOf
      ((members.map fun m => (some m.1, m.2)).reverse ++ [(some member.1, member.2)]).reverse)
      frames).bind _ = _
    rw [List.reverse_append, List.reverse_reverse, List.reverse_singleton, List.singleton_append]
    have all := objectOf_members (member :: members)
    rw [List.map_cons] at all
    rw [all]
    exact Option.bind_fun_some _

end Denotes

/-! ### Texts that write values -/

/-- The text is that of a value: its tokens stand for it. -/
def Writes (text : List Char) (value : Json) : Prop :=
  ∃ tokens, Spells text tokens ∧ Denotes tokens value

/-- The text is that of a member of an object. -/
def WritesMember (text : List Char) (member : String × Json) : Prop :=
  ∃ tokens, Spells text tokens ∧ DenotesMember tokens member

section Brackets

variable {inner outer : List Char} {texts : List (List Char)}

theorem isScalarChar_of_isSpace {c : Char} (space : isSpace c = true) : isScalarChar c = false := by
  simp only [isSpace, Bool.or_eq_true, beq_iff_eq] at space
  rcases space with ((rfl | rfl) | rfl) | rfl <;> rfl

theorem isScalarChar_of_punctuation {c : Char} {token : Token}
    (mark : punctuation? c = some token) : isScalarChar c = false := by
  unfold punctuation? at mark
  split at mark <;> first | rfl | cases mark

theorem separated_cons (separator item : List Char) (items : List (List Char)) :
    separated separator (item :: items) = item ++ items.flatMap (separator ++ ·) := by
  induction items generalizing item with
  | nil => simp [separated]
  | cons next items ih =>
    rw [separated, ih, List.flatMap_cons, List.append_assoc, List.append_assoc]
    exact List.cons_ne_nil next items

/-- Relations through elements in the middle go through a list in the middle. -/
theorem exists_between {α β γ : Type} {R : α → β → Prop} {S : β → γ → Prop} {as : List α}
    {cs : List γ} (related : List.Forall₂ (fun a c => ∃ b, R a b ∧ S b c) as cs) :
    ∃ bs, List.Forall₂ R as bs ∧ List.Forall₂ S bs cs := by
  induction related with
  | nil => exact ⟨[], .nil, .nil⟩
  | cons here _ ih =>
    obtain ⟨b, toMiddle, fromMiddle⟩ := here
    obtain ⟨bs, allTo, allFrom⟩ := ih
    exact ⟨b :: bs, .cons toMiddle allTo, .cons fromMiddle allFrom⟩

/-- Texts between two brackets, with blanks after the first bracket and each comma, and before the
second bracket. -/
theorem Spells.bracket {opening closing : Char} {first last : Token} {tokens : List (List Token)}
    (opens : punctuation? opening = some first) (closes : punctuation? closing = some last)
    (blankInner : ∀ c ∈ inner, isSpace c = true) (blankOuter : ∀ c ∈ outer, isSpace c = true)
    (spell : List.Forall₂ Spells texts tokens) (nonempty : texts ≠ []) :
    Spells (opening :: (inner ++ (separated (',' :: inner) texts ++ (outer ++ [closing]))))
      (first :: joined tokens ++ [last]) := by
  have rear : Spells (outer ++ [closing]) [last] := .spaces blankOuter (.punctuation closes .nil)
  have rearEnded : Ended (outer ++ [closing]) := by
    cases outer with
    | nil => exact isScalarChar_of_punctuation closes
    | cons c outer => exact isScalarChar_of_isSpace (blankOuter c List.mem_cons_self)
  -- Each text after the first is behind a comma, where the text before it has ended.
  have others : ∀ {texts tokens}, List.Forall₂ Spells texts tokens →
      Spells (texts.flatMap ((',' :: inner) ++ ·) ++ (outer ++ [closing]))
          (tokens.flatMap (.comma :: ·) ++ [last]) ∧
        Ended (texts.flatMap ((',' :: inner) ++ ·) ++ (outer ++ [closing])) := by
    intro texts tokens spell
    induction spell with
    | nil => exact ⟨rear, rearEnded⟩
    | @cons text tokens texts others here _ ih =>
      refine ⟨?_, rfl⟩
      rw [List.flatMap_cons, List.flatMap_cons, List.append_assoc, List.append_assoc,
        List.append_assoc]
      exact .punctuation rfl (.spaces blankInner (here.append ih.1 ih.2))
  cases spell with
  | nil => exact absurd rfl nonempty
  | @cons text tokens texts rest here spell =>
    rw [separated_cons, joined, List.append_assoc, List.cons_append, List.append_assoc]
    exact .punctuation opens (.spaces blankInner (here.append (others spell).1 (others spell).2))

variable (blankInner : ∀ c ∈ inner, isSpace c = true) (blankOuter : ∀ c ∈ outer, isSpace c = true)
include blankInner blankOuter

theorem Writes.array {items : List Json} (write : List.Forall₂ Writes texts items)
    (nonempty : texts ≠ []) :
    Writes ('[' :: (inner ++ (separated (',' :: inner) texts ++ (outer ++ [']']))))
      (.array items) := by
  obtain ⟨tokens, spell, denote⟩ := exists_between write
  exact ⟨_, .bracket rfl rfl blankInner blankOuter spell nonempty, .array denote⟩

theorem Writes.object {members : List (String × Json)}
    (write : List.Forall₂ WritesMember texts members) (nonempty : texts ≠ []) :
    Writes ('\x7b' :: (inner ++ (separated (',' :: inner) texts ++ (outer ++ ['\x7d']))))
      (.object members) := by
  obtain ⟨tokens, spell, denote⟩ := exists_between write
  exact ⟨_, .bracket rfl rfl blankInner blankOuter spell nonempty, .object denote⟩

end Brackets

theorem Writes.emptyArray : Writes ['[', ']'] (.array []) :=
  ⟨_, .punctuation rfl (.punctuation rfl .nil), .array .nil⟩

theorem Writes.emptyObject : Writes ['\x7b', '\x7d'] (.object []) :=
  ⟨_, .punctuation rfl (.punctuation rfl .nil), .object .nil⟩

theorem WritesMember.intro {blanks text : List Char} {value : Json} (key : String)
    (blank : ∀ c ∈ blanks, isSpace c = true) (writes : Writes text value) :
    WritesMember (writeString key ++ ':' :: (blanks ++ text)) (key, value) := by
  obtain ⟨tokens, spells, denotes⟩ := writes
  refine ⟨_, ?_, tokens, denotes, rfl⟩
  exact (Spells.string key).append (.punctuation rfl (.spaces blank spells)) rfl

/-- A text that writes a value is read as that value. -/
theorem Writes.parse {text : List Char} {value : Json} (writes : Writes text value) :
    parse? (String.ofList text) = some value := by
  obtain ⟨tokens, spells, denotes⟩ := writes
  have scanned : scan .outside text = some tokens := by
    have whole := spells [] trivial
    rw [List.append_nil] at whole
    rw [whole]
    simp [scan]
  have read : ofTokens? tokens = some value := by
    have whole := denotes [] .value (.inl rfl)
    rw [ofTokens?]
    change (Reading.steps { open_ := [], phase := .value } tokens).bind _ = _
    rw [whole]
    rfl
  rw [parse?, tokens?, String.toList_ofList, scanned]
  exact read

/-! ### The two layouts -/

theorem isSpace_of_mem_nil : ∀ c ∈ ([] : List Char), isSpace c = true :=
  fun _ member => absurd member List.not_mem_nil

theorem isSpace_of_mem_blank : ∀ c ∈ [' '], isSpace c = true := by simp [isSpace]

theorem isSpace_of_mem_newLine {level : Nat} : ∀ c ∈ newLine level, isSpace c = true := by
  intro c member
  rcases List.mem_cons.mp member with rfl | member
  · rfl
  · rw [List.eq_of_mem_replicate member]
    rfl

theorem compactItems_eq_map (items : List Json) : compactItems items = items.map writeCompact := by
  induction items with
  | nil => rfl
  | cons item items ih => rw [compactItems, ih, List.map_cons]

theorem compactMembers_eq_map (members : List (String × Json)) :
    compactMembers members = members.map fun m => writeString m.1 ++ ':' :: writeCompact m.2 := by
  induction members with
  | nil => rfl
  | cons member members ih => rw [compactMembers, ih, List.map_cons]

theorem prettyItems_eq_map (level : Nat) (items : List Json) :
    prettyItems level items = items.map (writePretty level) := by
  induction items with
  | nil => rfl
  | cons item items ih => rw [prettyItems, ih, List.map_cons]

theorem prettyMembers_eq_map (level : Nat) (members : List (String × Json)) :
    prettyMembers level members =
      members.map fun m => writeString m.1 ++ ':' :: ' ' :: writePretty level m.2 := by
  induction members with
  | nil => rfl
  | cons member members ih => rw [prettyMembers, ih, List.map_cons]

/-- A function that writes each element of a list makes a list of texts that write them. -/
theorem forall₂_map {α β : Type} {R : α → β → Prop} {f : β → α} {items : List β}
    (each : ∀ item ∈ items, R (f item) item) : List.Forall₂ R (items.map f) items :=
  List.forall₂_map_left_iff.mpr (List.forall₂_same.mpr each)

theorem block_eq (opening closing : Char) (level : Nat) {texts : List (List Char)}
    (nonempty : texts ≠ []) : block opening closing level texts =
      opening :: (newLine (level + 1) ++ (separated (',' :: newLine (level + 1)) texts ++
        (newLine level ++ [closing]))) := by
  simp [block, nonempty]

theorem writes_compact {value : Json} (plain : value.Plain) :
    Writes (writeCompact value) value := by
  induction plain with
  | null => exact ⟨_, .null, .scalar _⟩
  | bool b => exact ⟨_, .bool b, .scalar _⟩
  | natural n => exact ⟨_, .natural n, .scalar _⟩
  | string s => exact ⟨_, .string s, .string s⟩
  | @array items _ ih =>
    rw [writeCompact, compactItems_eq_map]
    cases items with
    | nil => exact .emptyArray
    | cons item items =>
      exact .array isSpace_of_mem_nil isSpace_of_mem_nil (forall₂_map ih) (List.cons_ne_nil _ _)
  | @object members _ ih =>
    rw [writeCompact, compactMembers_eq_map]
    cases members with
    | nil => exact .emptyObject
    | cons member members =>
      exact .object isSpace_of_mem_nil isSpace_of_mem_nil
        (forall₂_map fun m there => .intro m.1 isSpace_of_mem_nil (ih m there))
        (List.cons_ne_nil _ _)

theorem writes_pretty {value : Json} (plain : value.Plain) (level : Nat) :
    Writes (writePretty level value) value := by
  induction plain generalizing level with
  | null => exact ⟨_, .null, .scalar _⟩
  | bool b => exact ⟨_, .bool b, .scalar _⟩
  | natural n => exact ⟨_, .natural n, .scalar _⟩
  | string s => exact ⟨_, .string s, .string s⟩
  | @array items _ ih =>
    have write : List.Forall₂ Writes (items.map (writePretty (level + 1))) items :=
      forall₂_map fun item there => ih item there (level + 1)
    rw [writePretty, prettyItems_eq_map]
    cases items with
    | nil => exact .emptyArray
    | cons item items =>
      rw [List.map_cons] at write ⊢
      rw [block_eq _ _ _ (List.cons_ne_nil _ _)]
      exact .array isSpace_of_mem_newLine isSpace_of_mem_newLine write (List.cons_ne_nil _ _)
  | @object members _ ih =>
    have write : List.Forall₂ WritesMember (members.map fun m =>
        writeString m.1 ++ ':' :: ' ' :: writePretty (level + 1) m.2) members :=
      forall₂_map fun m there => .intro m.1 isSpace_of_mem_blank (ih m there (level + 1))
    rw [writePretty, prettyMembers_eq_map]
    cases members with
    | nil => exact .emptyObject
    | cons member members =>
      rw [List.map_cons] at write ⊢
      rw [block_eq _ _ _ (List.cons_ne_nil _ _)]
      exact .object isSpace_of_mem_newLine isSpace_of_mem_newLine write (List.cons_ne_nil _ _)

/-- **Plain values are read back from one line.** -/
theorem parse?_compact {value : Json} (plain : value.Plain) : parse? value.compact = some value :=
  (writes_compact plain).parse

/-- **Plain values are read back from several lines.** -/
theorem parse?_pretty {value : Json} (plain : value.Plain) : parse? value.pretty = some value :=
  (writes_pretty plain 0).parse

end Steering.Json
