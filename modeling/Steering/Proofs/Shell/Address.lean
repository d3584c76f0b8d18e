import Steering.Proofs.Suggestion
import Steering.Proofs.Shell.Tab

/-!
# Names as addresses

The name that the shell shows for a resource is the one that it goes by. Behind `show` and a kind,
the name as a suggestion writes it leads to the resource, and what is suggested there are the names
of all resources that fit what has been typed (`shown_by_name`).

What has to be known of a name for this: it can be typed and is taken as a value
(`Reachable.named`), something of it is to be seen (`Reachable.visible`), and no other resource of
the kind has it. The first two let the written name be read back as the one word it was, the last
makes the first resource with the name the one that was meant.
-/

namespace Steering

open Traffic

namespace Suggestion

/-- A name as it is written on a line, in quotes if it has white space. -/
def written (name : String) : String := (quoted name "").text

theorem text_quoted (name description : String) : (quoted name description).text = written name := by
  unfold written quoted
  split <;> rfl

end Suggestion

namespace Store.Document

/-- Of every name something is to be seen. -/
def Visible (doc : Document) : Prop :=
  ∀ kind, ∀ item ∈ doc.items kind, Text.allBlank (Kind.nameOf item) = false

theorem visible_seed : seed.Visible := by
  intro kind item there
  cases kind with
  | platform =>
    have names : ∀ p ∈ seed.platforms, Text.allBlank p.name = false := by decide +kernel
    exact names item there
  | alert | application | zone => exact absurd there List.not_mem_nil

theorem visible_empty : ({} : Document).Visible := by
  intro kind item there
  cases kind <;> exact absurd there List.not_mem_nil

end Store.Document

end Steering

namespace Steering.Shell

open Store Traffic Grammar

variable {shell : Shell} {now : Instant} {kind : Kind}

/-! ### Names that can be seen -/

theorem Reachable.visible [FilterEngine] (reachable : Reachable shell) :
    shell.document.Visible := by
  induction reachable with
  | seeded => exact Document.visible_seed
  | empty => exact Document.visible_empty
  | line reachable now line ih =>
    refine (execute_did reachable.sound.1 now line).1.forall_items
      (P := fun item => Text.allBlank (Kind.nameOf item) = false) ?_ ih
    intro kind item id wellMade _
    rw [Document.nameOf_asStored]
    exact wellMade.visible
  | files _ disk ih => exact ih

theorem spells_written {name : String} (unquoted : '"' ∉ name.toList)
    (visible : Text.allBlank name = false) : Line.Spells (Suggestion.written name) name := by
  refine spells_quoted unquoted ?_
  unfold Suggestion.quoted
  split
  · simp
  · rintro rfl
    cases visible

/-! ### What can be shown -/

/-- The resources of a kind, in the order in which the catalog lists them. -/
def listed (doc : Document) : (kind : Kind) → List kind.Item
  | .platform => listing doc .all
  | .alert => doc.shelf (.own .alert)
  | .application => doc.shelf (.own .application)
  | .zone => doc.shelf (.own .zone)

/-- The catalog lists all there is, with the community platforms first. -/
theorem listed_perm (doc : Document) (kind : Kind) : (listed doc kind).Perm (doc.items kind) := by
  cases kind with
  | platform =>
    have shelves : listed doc .platform = doc.shelf .community ++ doc.shelf (.own .platform) := rfl
    rw [shelves, Document.shelf_community, Document.shelf_own]
    exact List.perm_append_comm.trans (List.filter_append_perm _ _)
  | alert | application | zone => exact List.Perm.refl _

theorem named_of_mem {items : List kind.Item} (distinct : (items.map Kind.nameOf).Nodup)
    {item : kind.Item} (there : item ∈ items) :
    Catalog.named (Kind.nameOf item) items = .ok item := by
  obtain ⟨first, found⟩ := Catalog.exists_named (List.mem_map_of_mem there)
  obtain ⟨member, same⟩ := Catalog.named_eq_ok found
  rwa [List.inj_on_of_nodup_map distinct member there same] at found

theorem run_findShown {catalog : Catalog Workspace} (coherent : catalog.Coherent) (now : Instant)
    (kind : Kind) (name : String) :
    ((findShown (service now) kind name).run catalog).1 =
      Catalog.named name (listed catalog.document kind) := by
  cases kind with
  | platform =>
    refine (Implements.platformByName now name .all catalog coherent).1.trans ?_
    rw [run_platformByName]
    rfl
  | alert | application | zone =>
    refine (Implements.byName now _ name catalog coherent).1.trans ?_
    rw [Uncached.run_byName]
    rfl

/-! ### The lines that show -/

/-- The line that shows the resource of a kind that a text stands for. -/
def showLine (kind : Kind) (text : String) : String := "show " ++ kind.name ++ " " ++ text

/-- What the names of the resources that can be shown come from. -/
def shownSource : Kind → Source
  | .platform => .platforms .all none
  | .alert => .resources .alert
  | .application => .resources .application
  | .zone => .resources .zone

theorem words_showLine (kind : Kind) (text : String) :
    (Line.split (showLine kind text)).words = ["show", kind.name] ++ (Line.split text).words := by
  have closed : Line.quoteOpen ("show " ++ kind.name).toList = false := by cases kind <;> decide
  have begun : (Line.split ("show " ++ kind.name)).words = ["show", kind.name] := by
    cases kind <;> decide
  rw [showLine, Line.words_append_space _ _ closed, begun]

/-- Behind `show` and a kind, the name of a resource is due. -/
theorem walk_show (line : String) (kind : Kind) :
    ∃ w, spec.walk line ["show", kind.name] = .ok w ∧ w.fragment.code = some (.showOne kind) ∧
      w.awaiting = none ∧
      ∃ description, w.pending = [knownName description false (shownSource kind)] := by
  have there : ∃ w, spec.walk "" ["show", kind.name] = .ok w ∧
      w.fragment.code = some (.showOne kind) ∧ w.awaiting = none ∧
      ∃ description, w.pending = [knownName description false (shownSource kind)] := by
    cases kind <;> exact ⟨_, rfl, rfl, rfl, _, rfl⟩
  obtain ⟨w, walked, rest⟩ := there
  exact ⟨w, Walk.steps_ok_onLine line walked, rest⟩

theorem parse_showLine (kind : Kind) {text name : String} (spells : Line.Spells text name)
    (bare : isMarked name = false) :
    ∃ args, spec.parse (showLine kind text) = .ok args ∧ args.code = .showOne kind ∧
      args.arg? "name" = some name := by
  obtain ⟨w, walked, code, free, description, due⟩ := walk_show (showLine kind text) kind
  have terminal : w.fragment.isTerminal = true := by rw [Fragment.isTerminal, code]; rfl
  let next : Walk Command Empty Source :=
    { w with args := w.args.insert "name" name, pending := [] }
  have accepted : w.Accepts name next := .positional terminal free due bare
  have words : (Line.split (showLine kind text)).words = ["show", kind.name] ++ [name] := by
    rw [words_showLine]
    exact congrArg _ spells.words
  have onward : spec.walk (showLine kind text) (Line.split (showLine kind text)).words =
      .ok next := by
    rw [words]
    exact (Walk.steps_append_eq_ok_iff _ _ _ _ _).mpr ⟨w, walked, accepted.steps rfl⟩
  -- The name was the only thing that was due, so nothing is missing.
  have skips : next.Skips := by
    intro arg none
    cases none
  have finished : next.finish = .ok ⟨.showOne kind, next.args, next.handler⟩ :=
    (next.finish_eq_ok_iff _).mpr ⟨skips, free, _, code, rfl⟩
  exact ⟨_, (spec.parse_eq_ok_iff_walk _ _).mpr ⟨next, onward, finished⟩, rfl,
    Dict.get?_insert_self _ _ _⟩

/-- A name that is being typed there is completed by the names of the resources. -/
theorem complete_showLine (kind : Kind) {typed : String} (plain : Line.IsPlain typed)
    (nonempty : typed ≠ "") : spec.complete (showLine kind typed) = .ask (shownSource kind) typed := by
  obtain ⟨w, walked, code, free, description, due⟩ := walk_show (showLine kind typed) kind
  have terminal : w.fragment.isTerminal = true := by rw [Fragment.isTerminal, code]; rfl
  have words : (Line.split (showLine kind typed)).words = ["show", kind.name] ++ [typed] := by
    rw [words_showLine, Line.words_of_isPlain plain nonempty]
  have typing : (Line.split (showLine kind typed)).atNewWord = false :=
    Line.atNewWord_append_plain _ plain nonempty
  have role : w.role typed = .positional (knownName description false (shownSource kind)) :=
    Walk.role_eq_positional_iff.mpr ⟨terminal, free, by simp [due], fun _ => rfl⟩
  rw [spec.complete_eq_of_typing words typing, walked]
  simp [Walk.completeToken, role, plain.1, knownName, offerValue]

/-! ### What is shown and suggested -/

theorem execute_show [FilterEngine] (coherent : shell.catalog.Coherent) {line name : String}
    {args : Args Command} {item : kind.Item} (parsed : spec.parse line = .ok args)
    (code : args.code = .showOne kind)
    (named : args.arg? "name" = some name)
    (found : Catalog.named name (listed shell.document kind) = .ok item) :
    (shell.execute now line).1 =
      { result := .ok .proceed, output := (Kind.toJson item).pretty ++ "\n" } := by
  obtain ⟨_, values, handler⟩ := args
  subst code
  -- With the name that is asked for the catalog finds the resource, whatever it has cached.
  have asked : (ParsedCommand.mk (Command.showOne kind) values handler).argOrEmpty "name" = name :=
    congrArg (Option.getD · "") named
  have ran := (run_findShown coherent now kind name).trans found
  have runs : (runCommand now shell.tableWidth ⟨.showOne kind, values, handler⟩).run
      { catalog := shell.catalog } = (.ok .proceed,
        { catalog := ((findShown (service now) kind name).run shell.catalog).2
          output := (Kind.toJson item).pretty ++ "\n" }) := by
    change (runShow (service now) kind _ >>= fun _ => pure .proceed : ConsoleM Outcome).run _ = _
    rw [run_bind, runShow, run_bind, run_onCatalog, asked, ran]
    rfl
  rw [execute_of_run parsed runs]

theorem texts_nameSuggestions (typed : String) (named : List (String × String)) :
    (nameSuggestions typed named).map (·.text) =
      (named.map fun pair => Suggestion.written pair.1).filter fun text =>
        Text.lowerChars typed.toList <:+: Text.lowerChars text.toList := by
  simp only [nameSuggestions, Suggestion.containing, Suggestion.folded, if_true, List.filter_map,
    List.map_map]
  refine congrArg₂ _ (funext fun pair => Suggestion.text_quoted _ _) ?_
  refine List.filter_congr fun pair _ => ?_
  rw [Function.comp, Function.comp, Suggestion.text_quoted, Bool.eq_iff_iff, Suggestion.occursIn_iff,
    decide_eq_true_iff]

theorem texts_answers (doc : Document) (kind : Kind) (typed : String) :
    (answers doc (shownSource kind) typed).map (·.text) =
      ((listed doc kind).map fun item => Suggestion.written (Kind.nameOf item)).filter fun text =>
        Text.lowerChars typed.toList <:+: Text.lowerChars text.toList := by
  cases kind with
  | platform =>
    have every : (listing doc .all).filter (fun p => (none : Option Category).all (p.category == ·)) =
        listing doc .all := List.filter_eq_self.mpr fun _ _ => rfl
    rw [shownSource, answers, every, texts_nameSuggestions, List.map_map]
    rfl
  | alert | application | zone =>
    rw [shownSource, answers, texts_nameSuggestions, List.map_map]
    rfl

/-- **Names are addresses**: over a reachable store, every resource is shown by its written name,
and for what has been typed of one, the names that are suggested are those of the resources that
have it in them, in any case, in the order of the catalog. -/
theorem shown_by_name [FilterEngine] (reachable : Reachable shell) (now : Instant) (kind : Kind) :
    (∀ item ∈ shell.document.items kind,
      (shell.execute now (showLine kind (Suggestion.written (Kind.nameOf item)))).1 =
        { result := .ok .proceed, output := (Kind.toJson item).pretty ++ "\n" }) ∧
      (listed shell.document kind).Perm (shell.document.items kind) ∧
      ∀ typed, typed ≠ "" → Line.IsPlain typed →
        (shell.complete now (showLine kind typed)).1.map (·.text) =
          ((listed shell.document kind).map fun item =>
            Suggestion.written (Kind.nameOf item)).filter fun text =>
              Text.lowerChars typed.toList <:+: Text.lowerChars text.toList := by
  obtain ⟨coherent, orderly⟩ := reachable.sound
  -- In the listing names are as distinct as in the document.
  have all := listed_perm shell.document kind
  refine ⟨fun item there => ?_, all, fun typed nonempty plain => ?_⟩
  · obtain ⟨bare, unquoted⟩ := reachable.named kind item there
    have spells := spells_written unquoted (reachable.visible kind item there)
    obtain ⟨args, parsed, code, named⟩ := parse_showLine kind spells bare
    have distinct : ((listed shell.document kind).map Kind.nameOf).Nodup :=
      (all.map Kind.nameOf).nodup_iff.mpr (orderly.names kind)
    exact execute_show coherent parsed code named (named_of_mem distinct (all.mem_iff.mpr there))
  · rw [(complete_spec coherent now _).1, Spec.suggest, complete_showLine kind plain nonempty]
    exact texts_answers shell.document kind typed

/-- A name with spaces is shown, and suggested, in quotes. -/
theorem shown_by_name_quoted :
    (∃ p ∈ community.document.platforms, p.name = "Amazon CloudFront" ∧
      (community.execute default "show platform \"Amazon CloudFront\"").1 =
        { result := .ok .proceed, output := (Platform.toJson p).pretty ++ "\n" }) ∧
      (community.complete default "show platform CLOUDF").1.map (·.text) =
        ["\"Amazon CloudFront\"", "\"Cloudflare Workers\""] := by
  have facts : (∃ p ∈ community.document.platforms, p.name = "Amazon CloudFront") ∧
      showLine .platform (Suggestion.written "Amazon CloudFront") =
        "show platform \"Amazon CloudFront\"" ∧
      ((listed community.document .platform).map fun item =>
        Suggestion.written (Kind.nameOf item)).filter (fun text =>
          Text.lowerChars "CLOUDF".toList <:+: Text.lowerChars text.toList) =
        ["\"Amazon CloudFront\"", "\"Cloudflare Workers\""] := by decide +kernel
  obtain ⟨⟨p, there, named⟩, line, fitting⟩ := facts
  have reachable : Reachable community := .seeded {} none 80
  obtain ⟨shown, -, suggested⟩ := shown_by_name reachable default .platform
  refine ⟨⟨p, there, named, ?_⟩, ?_⟩
  · have reply := shown p there
    change (community.execute default (showLine .platform (Suggestion.written p.name))).1 = _ at reply
    rwa [named, line] at reply
  · exact (suggested "CLOUDF" (by decide) (by decide)).trans fitting

end Steering.Shell
