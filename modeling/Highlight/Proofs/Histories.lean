import Highlight.Proofs.Tables
import Highlight.Session
import Mathlib.Data.List.Induction
import Mathlib.Data.List.TFAE
import Mathlib.Tactic.TFAE

/-!
# Sessions over their histories

A session is started with a list of grammar files, all of which have to be loaded, and grammar files may be registered
later, some of which may fail. What counts in the end is the list of registrations that succeeded: `registeredIn` gives
the grammar of each language as a function that is updated by one registration after the other.

* **Bundled languages** (`map_bundledGrammars`, `Registry.exists_get?_bundled`): every bundled definition builds, so
  that each bundled language has a grammar from the start.
* **Registries** (`Registry.get?_foldl_register`): look-ups in a registry follow that function. The other questions
  (whether there is a language, which ones there are, what its tokens are) are answered by look-ups
  (`Session.tfae_language`).
* **Calls** (`Session.register_ok`, `Session.register_error`): a call adds one registration, or reports the reason and
  leaves the session as it was; `Session.registerEach_eq` is about any number of calls.
* **Starts** (`Session.start_ok_iff`, `Session.start_error_iff`): a session starts as if each file had been registered
  by a call, or it reports the first file that cannot be loaded.
* **Histories** (`session_follows_history`): what a session has become after its start and any calls.
-/

namespace Highlight

/-! ## Definitions that build -/

section BuildAll

variable {definitions : List (String × GrammarDefinition)}

/-- Where all definitions build, the grammars are what they build to, one for one and in order. -/
theorem map_buildAll (h : ∀ d ∈ definitions, ∃ g, d.2.build = .ok g) :
    (buildAll definitions).map (fun e => (e.1, Except.ok e.2)) = definitions.map fun d => (d.1, d.2.build) := by
  rw [buildAll, List.map_filterMap, ← List.filterMap_eq_map]
  refine List.filterMap_congr fun d hd => ?_
  obtain ⟨g, hg⟩ := h d hd
  simp [hg]

theorem map_fst_buildAll (h : ∀ d ∈ definitions, ∃ g, d.2.build = .ok g) :
    (buildAll definitions).map (·.1) = definitions.map (·.1) := by
  simpa [Function.comp_def] using congrArg (List.map Prod.fst) (map_buildAll h)

end BuildAll

/-- **No bundled language is left out.** -/
theorem map_bundledGrammars : bundledGrammars.map (fun e => (e.1, Except.ok e.2)) =
    bundledDefinitions.map fun d => (d.1, d.2.build) := map_buildAll exists_build_of_mem_bundled

/-! ## Registrations -/

/-- The grammars of languages, after each registration of a name and a grammar has replaced what the name stood for. -/
def registeredIn (m : String → Option Grammar) (registrations : List (String × Grammar)) : String → Option Grammar :=
  registrations.foldl (fun m r => Function.update m r.1 (some r.2)) m

theorem registeredIn_append (m : String → Option Grammar) (rs rs' : List (String × Grammar)) :
    registeredIn m (rs ++ rs') = registeredIn (registeredIn m rs) rs' := List.foldl_append ..

/-- A name that was registered stands for a grammar. -/
theorem exists_registeredIn {m : String → Option Grammar} {name : String} {rs : List (String × Grammar)}
    (h : name ∈ rs.map (·.1)) : ∃ g, registeredIn m rs name = some g := by
  induction rs using List.reverseRecOn with
  | nil => cases h
  | append_singleton rs r ih =>
    rw [registeredIn_append]
    by_cases hname : name = r.1
    · subst hname
      exact ⟨r.2, Function.update_self ..⟩
    · obtain ⟨g, hg⟩ := ih (by simpa [hname] using h)
      exact ⟨g, (Function.update_of_ne hname ..).trans hg⟩

namespace Registry

theorem get?_register (r : Registry) (name : String) (g : Grammar) :
    (r.register name g).get? = Function.update r.get? name (some g) := by
  funext name'
  have hinsert := r.grammars.get?_insert name g name'
  by_cases h : name' = name
  · subst h
    rw [Function.update_self]
    simpa [register, get?] using hinsert
  · rw [Function.update_of_ne h]
    simpa [register, get?, h] using hinsert

theorem get?_foldl_register (rs : List (String × Grammar)) (r : Registry) :
    (rs.foldl (fun r (name, g) => r.register name g) r).get? = registeredIn r.get? rs := by
  induction rs generalizing r with
  | nil => rfl
  | cons e rs ih =>
    rw [List.foldl_cons, ih, get?_register]
    rfl

/-- At first there are the bundled languages. -/
theorem get?_bundled : bundled.get? = registeredIn (fun _ => none) bundledGrammars :=
  get?_foldl_register bundledGrammars empty

/-- **Every bundled language** has a grammar from the start. -/
theorem exists_get?_bundled {name : String} (h : name ∈ bundledDefinitions.map (·.1)) :
    ∃ g, bundled.get? name = some g := by
  rw [← map_fst_buildAll exists_build_of_mem_bundled] at h
  rw [get?_bundled]
  exact exists_registeredIn h

theorem mem_languages_iff (r : Registry) (name : String) : name ∈ r.languages ↔ ∃ g, r.get? name = some g := by
  simp only [languages, Table.keys, List.mem_map, Prod.exists, exists_and_right, exists_eq_right,
    r.grammars.mem_entries_iff, get?]

end Registry

/-! ## Calls -/

/-- What loading the grammar of a source gives. -/
def GrammarSource.load (files : ReadFile Id) (source : GrammarSource) : Except LoadError Grammar :=
  (Grammar.loadFile files source.path).run

theorem GrammarSource.load_of_name (files : ReadFile Id) (source : GrammarSource) (name : String)
    (h : (source.load files).toOption.map Grammar.name = some name) :
    ∃ g, source.load files = .ok g ∧ g.name = name := by
  cases hload : source.load files with
  | ok g => exact ⟨g, rfl, by simpa [hload, Except.toOption] using h⟩
  | error e => simp [hload, Except.toOption] at h

/-- The registrations of the sources whose grammar can be loaded. -/
def registrations (files : ReadFile Id) (sources : List GrammarSource) : List (String × Grammar) :=
  sources.filterMap fun source => (source.load files).toOption.map (source.name, ·)

section

variable {files : ReadFile Id} {source : GrammarSource}

theorem registrations_cons_ok {g : Grammar} (h : source.load files = .ok g) (sources : List GrammarSource) :
    registrations files (source :: sources) = (source.name, g) :: registrations files sources := by
  simp [registrations, h, Except.toOption]

theorem registrations_cons_error {e : LoadError} (h : source.load files = .error e) (sources : List GrammarSource) :
    registrations files (source :: sources) = registrations files sources := by
  simp [registrations, h, Except.toOption]

end

namespace Session

variable {files : ReadFile Id} {s : Session} {source : GrammarSource}

/-- A call with a source. -/
def register (files : ReadFile Id) (s : Session) (source : GrammarSource) : Except SessionError Unit × Session :=
  (s.registerFile files source.name source.path).run

/-- The session after calls one after the other, whether they succeed or not. -/
def registerEach (files : ReadFile Id) (s : Session) (calls : List GrammarSource) : Session :=
  calls.foldl (fun s call => (s.register files call).2) s

/-- A call with a file that can be loaded. -/
theorem register_ok {g : Grammar} (h : source.load files = .ok g) :
    s.register files source = (.ok (), { s with registry := s.registry.register source.name g }) := by
  have hload : Grammar.loadFile files source.path = .ok g := h
  simp only [register, registerFile, hload]
  rfl

/-- A call with a file that cannot be loaded. -/
theorem register_error {e : LoadError} (h : source.load files = .error e) :
    s.register files source = (.error (.grammar source.name e), s) := by
  have hload : Grammar.loadFile files source.path = .error e := h
  simp only [register, registerFile, hload]
  rfl

/-- **Calls** change no settings, and look-ups follow the registrations among them. -/
theorem registerEach_eq (files : ReadFile Id) (s : Session) (calls : List GrammarSource) :
    (s.registerEach files calls).settings = s.settings ∧
      (s.registerEach files calls).registry.get? = registeredIn s.registry.get? (registrations files calls) := by
  induction calls generalizing s with
  | nil => exact ⟨rfl, rfl⟩
  | cons call calls ih =>
    obtain ⟨hsettings, hget⟩ := ih (s.register files call).2
    rw [registerEach, List.foldl_cons, ← registerEach, hsettings, hget]
    cases hload : call.load files with
    | ok g =>
      rw [register_ok hload, registrations_cons_ok hload, Registry.get?_register]
      exact ⟨rfl, rfl⟩
    | error e =>
      rw [register_error hload, registrations_cons_error hload]
      exact ⟨rfl, rfl⟩

/-! ## Starts -/

/-- The first of the sources whose grammar cannot be loaded, and the reason. -/
def FirstFault (files : ReadFile Id) (sources : List GrammarSource) (source : GrammarSource) (e : LoadError) : Prop :=
  ∃ before after, sources = before ++ source :: after ∧ (∀ other ∈ before, ∃ g, other.load files = .ok g) ∧
    source.load files = .error e

theorem loads_or_firstFault (files : ReadFile Id) (sources : List GrammarSource) :
    (∀ source ∈ sources, ∃ g, source.load files = .ok g) ∨ ∃ source e, FirstFault files sources source e := by
  induction sources with
  | nil => exact Or.inl (by simp)
  | cons source sources ih =>
    cases hload : source.load files with
    | error e => exact Or.inr ⟨source, e, [], sources, rfl, by simp, hload⟩
    | ok g =>
      rcases ih with hall | ⟨fault, e, before, after, rfl, hbefore, hfault⟩
      · exact Or.inl (List.forall_mem_cons.2 ⟨⟨g, hload⟩, hall⟩)
      · exact Or.inr ⟨fault, e, source :: before, after, rfl, List.forall_mem_cons.2 ⟨⟨g, hload⟩, hbefore⟩, hfault⟩

theorem registerAll_cons_ok {g : Grammar} (h : source.load files = .ok g) (sources : List GrammarSource) :
    s.registerAll files (source :: sources) = (s.register files source).2.registerAll files sources := by
  have hregister : s.registerFile files source.name source.path = s.register files source := rfl
  rw [register_ok h] at hregister ⊢
  simp only [registerAll, hregister]
  rfl

theorem registerAll_cons_error {e : LoadError} (h : source.load files = .error e) (sources : List GrammarSource) :
    (s.registerAll files (source :: sources)).run = .error (.grammar source.name e) := by
  have hregister : s.registerFile files source.name source.path = s.register files source := rfl
  rw [register_error h] at hregister
  simp only [registerAll, hregister]
  rfl

/-- Files that can all be loaded are registered as if by one call for each. -/
theorem registerAll_ok {sources : List GrammarSource} (h : ∀ source ∈ sources, ∃ g, source.load files = .ok g) :
    (s.registerAll files sources).run = .ok (s.registerEach files sources) := by
  induction sources generalizing s with
  | nil => rfl
  | cons source sources ih =>
    obtain ⟨⟨g, hload⟩, hrest⟩ := List.forall_mem_cons.1 h
    rw [registerAll_cons_ok hload, ih hrest]
    rfl

/-- The first file that cannot be loaded is reported. -/
theorem registerAll_error {sources : List GrammarSource} {e : LoadError} (h : FirstFault files sources source e) :
    (s.registerAll files sources).run = .error (.grammar source.name e) := by
  obtain ⟨before, after, rfl, hbefore, hfault⟩ := h
  induction before generalizing s with
  | nil => exact registerAll_cons_error hfault after
  | cons other before ih =>
    obtain ⟨⟨g, hload⟩, hrest⟩ := List.forall_mem_cons.1 hbefore
    rw [List.cons_append, registerAll_cons_ok hload, ih hrest]

theorem start_eq (files : ReadFile Id) (settings : Settings) : (start files settings).run =
    (registerAll files { settings, registry := .bundled } settings.highlight.grammars).run := rfl

/-- **A start** succeeds if all files can be loaded. -/
theorem start_ok_iff (files : ReadFile Id) (settings : Settings) : (∃ s, (start files settings).run = .ok s) ↔
    ∀ source ∈ settings.highlight.grammars, ∃ g, source.load files = .ok g := by
  refine ⟨fun ⟨s, hs⟩ => ?_, fun h => ⟨_, registerAll_ok h⟩⟩
  rcases loads_or_firstFault files settings.highlight.grammars with hall | ⟨source, e, hfault⟩
  · exact hall
  · rw [start_eq, registerAll_error hfault] at hs
    cases hs

/-- **A start** that fails reports the first file that cannot be loaded. -/
theorem start_error_iff (files : ReadFile Id) (settings : Settings) (e : SessionError) :
    (start files settings).run = .error e ↔
      ∃ source fault, FirstFault files settings.highlight.grammars source fault ∧ e = .grammar source.name fault := by
  refine ⟨fun h => ?_, fun ⟨source, fault, hfault, he⟩ => he ▸ registerAll_error hfault⟩
  rcases loads_or_firstFault files settings.highlight.grammars with hall | ⟨source, fault, hfault⟩
  · rw [start_eq, registerAll_ok hall] at h
    cases h
  · rw [start_eq, registerAll_error hfault] at h
    cases h
    exact ⟨source, fault, hfault, rfl⟩

/-- A session that was started is the one with the bundled languages after a call for each file. -/
theorem start_eq_registerEach {settings : Settings} (h : (start files settings).run = .ok s) :
    s = registerEach files { settings, registry := .bundled } settings.highlight.grammars := by
  have hall := (start_ok_iff files settings).1 ⟨s, h⟩
  rw [start_eq, registerAll_ok hall] at h
  cases h
  rfl

/-- **Questions about a language** have the same answer: whether it is there, whether it has a grammar, whether it is
listed, and whether a text can be cut into its tokens. -/
theorem tfae_language (s : Session) (name text : String) : List.TFAE [
    s.registry.contains name = true, ∃ g, s.registry.get? name = some g, name ∈ s.registry.languages,
    s.registry.run? text name ≠ none, s.tokenize text name ≠ .error (.unknownLanguage name)] := by
  tfae_have 1 ↔ 2 := by
    simp only [Registry.contains, Table.contains, Option.isSome_iff_exists, Registry.get?]
  tfae_have 2 ↔ 3 := (s.registry.mem_languages_iff name).symm
  tfae_have 2 ↔ 4 := by
    rw [← Option.isSome_iff_ne_none, Registry.run?, Option.isSome_map, Option.isSome_iff_exists]
  tfae_have 4 ↔ 5 := by
    unfold tokenize
    cases s.registry.run? text name with
    | none => simp
    | some run => cases s.settings.highlight.tokenLimit <;> simp
  tfae_finish

end Session

/-- **Sessions follow their histories.** Files are fixed. A session starts exactly if all its files can be loaded, and
otherwise it reports the first one that cannot. After any calls that register more files, look-ups follow the bundled
languages, then the files of the settings, and then those calls that have succeeded, where the last registration of a
name counts; a call that fails reports the file and leaves the session as it was. The languages are listed in ascending
order of the bytes of their names, and all questions about a language have the same answer. -/
theorem session_follows_history (files : ReadFile Id) (settings : Settings) :
    ((∃ s, (Session.start files settings).run = .ok s) ↔
      ∀ source ∈ settings.highlight.grammars, ∃ g, source.load files = .ok g) ∧
    (∀ e, (Session.start files settings).run = .error e ↔ ∃ source fault,
      Session.FirstFault files settings.highlight.grammars source fault ∧ e = .grammar source.name fault) ∧
    ∀ s₀, (Session.start files settings).run = .ok s₀ → ∀ calls,
      let s := s₀.registerEach files calls
      s.settings = settings ∧
      s.registry.get? = registeredIn (fun _ => none)
        (bundledGrammars ++ registrations files (settings.highlight.grammars ++ calls)) ∧
      (∀ call e, (s.register files call).1 = .error e → (s.register files call).2 = s ∧
        ∃ fault, call.load files = .error fault ∧ e = .grammar call.name fault) ∧
      s.registry.languages.Pairwise (fun a b => utf8 a < utf8 b) ∧
      ∀ name text, List.TFAE [
        s.registry.contains name = true, ∃ g, s.registry.get? name = some g, name ∈ s.registry.languages,
        s.registry.run? text name ≠ none, s.tokenize text name ≠ .error (.unknownLanguage name)] := by
  refine ⟨Session.start_ok_iff files settings, Session.start_error_iff files settings, fun s₀ hs₀ calls => ?_⟩
  obtain rfl := Session.start_eq_registerEach hs₀
  intro s
  have hs : s = Session.registerEach files { settings, registry := .bundled }
      (settings.highlight.grammars ++ calls) := List.foldl_append.symm
  obtain ⟨hsettings, hget⟩ := Session.registerEach_eq files { settings, registry := .bundled }
    (settings.highlight.grammars ++ calls)
  rw [← hs] at hsettings hget
  refine ⟨hsettings, ?_, fun call e he => ?_, s.registry.grammars.pairwise_utf8_lt, fun name text =>
    s.tfae_language name text⟩
  · rw [hget, registeredIn_append, Registry.get?_bundled]
  · cases hload : call.load files with
    | ok g =>
      rw [Session.register_ok hload] at he
      cases he
    | error fault =>
      rw [Session.register_error hload] at he ⊢
      cases he
      exact ⟨rfl, fault, rfl, rfl⟩

/-- Two files with grammars, named `a` and `b`. -/
def ReadFile.twoGrammars : ReadFile Id
  | "a.json" => Except.ok "\x7b\"name\": \"a\", \"root\": \"m\", \"rule_sets\": \x7b\"m\": []\x7d\x7d"
  | "b.json" => Except.ok "\x7b\"name\": \"b\", \"root\": \"m\", \"rule_sets\": \x7b\"m\": []\x7d\x7d"
  | _ => Except.error FileFault.missing

/-- A bundled name is replaced at the start, one more is registered, and a call that would replace the first fails. -/
theorem session_follows_history_two_grammars :
    let settings : Settings := { (default : Settings) with
      highlight := { (default : HighlightSettings) with grammars := [⟨"eisen", "a.json"⟩] } }
    ∃ s₀, (Session.start ReadFile.twoGrammars settings).run = .ok s₀ ∧
      let s := s₀.registerEach ReadFile.twoGrammars [⟨"other", "b.json"⟩, ⟨"eisen", "c.json"⟩]
      (s.registry.get? "eisen").map Grammar.name = some "a" ∧ (s.registry.get? "other").map Grammar.name = some "b" ∧
        "other" ∈ s.registry.languages ∧ ∀ text, s.tokenize text "other" ≠ .error (.unknownLanguage "other") := by
  intro settings
  obtain ⟨a, ha, hname⟩ := GrammarSource.load_of_name ReadFile.twoGrammars ⟨"eisen", "a.json"⟩ "a" (by decide +kernel)
  obtain ⟨b, hb, hname'⟩ := GrammarSource.load_of_name ReadFile.twoGrammars ⟨"other", "b.json"⟩ "b" (by decide +kernel)
  have hc : (⟨"eisen", "c.json"⟩ : GrammarSource).load ReadFile.twoGrammars =
      .error (.io "c.json" FileFault.missing.reason) := rfl
  obtain ⟨hstart, -, hhistory⟩ := session_follows_history ReadFile.twoGrammars settings
  obtain ⟨s₀, hs₀⟩ := hstart.2 (List.forall_mem_singleton.2 ⟨a, ha⟩)
  refine ⟨s₀, hs₀, ?_⟩
  intro s
  obtain ⟨-, hget, -, -, hsame⟩ := hhistory s₀ hs₀ [⟨"other", "b.json"⟩, ⟨"eisen", "c.json"⟩]
  have hregistrations : registrations ReadFile.twoGrammars
      [⟨"eisen", "a.json"⟩, ⟨"other", "b.json"⟩, ⟨"eisen", "c.json"⟩] = [("eisen", a), ("other", b)] := by
    rw [registrations_cons_ok ha, registrations_cons_ok hb, registrations_cons_error hc]
    rfl
  have hmap : s.registry.get? = Function.update (Function.update (registeredIn (fun _ => none) bundledGrammars)
      "eisen" (some a)) "other" (some b) := by
    rw [hget, registeredIn_append]
    exact congrArg (registeredIn _) hregistrations
  have heisen : s.registry.get? "eisen" = some a := by
    rw [hmap, Function.update_of_ne (by decide), Function.update_self]
  have hother : s.registry.get? "other" = some b := by rw [hmap, Function.update_self]
  have hlisted : (∃ g, s.registry.get? "other" = some g) ↔ "other" ∈ s.registry.languages :=
    (hsame "other" "").out 1 2
  have hread (text : String) : (∃ g, s.registry.get? "other" = some g) ↔
      s.tokenize text "other" ≠ .error (.unknownLanguage "other") := (hsame "other" text).out 1 4
  exact ⟨by rw [heisen, Option.map_some, hname], by rw [hother, Option.map_some, hname'],
    hlisted.1 ⟨b, hother⟩, fun text => (hread text).1 ⟨b, hother⟩⟩

end Highlight
