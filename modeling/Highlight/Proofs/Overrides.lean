import Highlight.Command
import Mathlib.Data.List.Permutation

/-!
# Overrides

Overrides of `highlight.format` and `highlight.max_tokens` may stand anywhere among the layers of settings. They are set
after all other layers are merged, so they win, and nothing else depends on them.

* **Entries** (`lookup_putEntry`): setting an entry changes look-ups of its key alone.
* **Records** (`Setting.toHighlightSettings_eq_ok_iff`, `Setting.toSettings_eq_ok_iff`): records are read field by
  field, so tables with the same look-ups are read alike, and the order in which fields were set does not matter
  (`Setting.toSettings_withHighlight_comm`).
* **Layers** (`Overridden.load_layers`): layers with overrides give the value of the other layers, in which two fields
  are set. What that is read as is known from what the value is read as without them
  (`Setting.toSettings_overridden`).
-/

namespace Highlight

/-! ## Entries -/

theorem lookup_entry (key : String) (v : Setting) (es : List (String × Setting)) (name : String) :
    List.lookup name ((key, v) :: es) = if name = key then some v else es.lookup name := by
  by_cases h : name = key
  · simp [h]
  · rw [List.lookup_cons, beq_eq_false_iff_ne.2 h, if_neg h]

theorem lookup_putEntry (key : String) (v : Setting) (es : List (String × Setting)) (name : String) :
    (putEntry key v es).lookup name = if name = key then some v else es.lookup name := by
  induction es with
  | nil => exact lookup_entry key v [] name
  | cons e es ih =>
    obtain ⟨k, old⟩ := e
    by_cases hk : k = key
    · subst hk
      by_cases h : name = k <;> simp [putEntry, lookup_entry, h]
    · by_cases h : name = k
      · subst h
        simp [putEntry, hk]
      · simp [putEntry, lookup_entry, hk, h, ih]

/-! ## Records -/

theorem ok_bind {ε α β : Type} (a : α) (f : α → Except ε β) : (Except.ok a >>= f) = f a := rfl

theorem bind_eq_ok_iff {ε α β : Type} {x : Except ε α} {f : α → Except ε β} {b : β} :
    (x >>= f) = .ok b ↔ ∃ a, x = .ok a ∧ f a = .ok b := by
  cases x with
  | error e => simp [Bind.bind, Except.bind]
  | ok a => simp [Bind.bind, Except.bind]

theorem pure_eq_ok_iff {ε α : Type} {a b : α} : (pure a : Except ε α) = .ok b ↔ a = b := Except.ok.injEq a b ▸ Iff.rfl

theorem requiredField_eq_ok_iff {α : Type} {name : String} {o : Option α} {a : α} :
    requiredField name o = .ok a ↔ o = some a := by
  cases o <;> simp [requiredField]

theorem Fields.read?_eq_some_iff {α β : Type} {f : Fields α} {name : String} {place : Nat}
    {read : α → Except SettingsError β} {b : β} :
    f.read? name place read = .ok (some b) ↔ ∃ a, f.get? name place = some a ∧ read a = .ok b := by
  unfold read?
  cases f.get? name place with
  | none => simp
  | some a => cases hread : read a <;> simp [Except.map, hread]

/-- Tables with the same look-ups have the same fields. -/
theorem Fields.read?_congr {α β : Type} {es es' : List (String × α)} (h : ∀ name, es.lookup name = es'.lookup name)
    (name : String) (place : Nat) (read : α → Except SettingsError β) :
    (Fields.table es).read? name place read = (Fields.table es').read? name place read := by
  simp only [read?, get?, h]

namespace Setting

theorem toHighlightSettings_eq_ok_iff {v : Setting} {s : HighlightSettings} : v.toHighlightSettings = .ok s ↔
    ∃ f, v.fields = .ok f ∧ f.read? "default_language" 0 toText = .ok (some s.defaultLanguage) ∧
      f.read? "format" 1 toText = .ok (some s.format) ∧ f.read? "max_tokens" 2 toCount = .ok (some s.maxTokens) ∧
      ∃ grammars, f.read? "grammars" 3 (toList toGrammarSource) = .ok grammars ∧ s.grammars = grammars.getD [] := by
  obtain ⟨defaultLanguage, format, maxTokens, grammars⟩ := s
  simp only [toHighlightSettings, bind_eq_ok_iff, requiredField_eq_ok_iff, pure_eq_ok_iff, HighlightSettings.mk.injEq]
  constructor
  · rintro ⟨f, hf, _, hlanguage, _, hformat, _, hmax, gs, hgrammars, _, rfl, _, rfl, _, rfl, rfl, rfl, rfl, rfl⟩
    exact ⟨f, hf, hlanguage, hformat, hmax, gs, hgrammars, rfl⟩
  · rintro ⟨f, hf, hlanguage, hformat, hmax, gs, hgrammars, rfl⟩
    exact ⟨f, hf, _, hlanguage, _, hformat, _, hmax, gs, hgrammars, _, rfl, _, rfl, _, rfl, rfl, rfl, rfl, rfl⟩

theorem toSettings_eq_ok_iff {v : Setting} {s : Settings} : v.toSettings = .ok s ↔
    ∃ f, v.fields = .ok f ∧ f.read? "highlight" 0 toHighlightSettings = .ok (some s.highlight) ∧
      f.read? "site" 1 toSiteSettings = .ok (some s.site) := by
  obtain ⟨highlight, site⟩ := s
  simp only [toSettings, bind_eq_ok_iff, requiredField_eq_ok_iff, pure_eq_ok_iff, Settings.mk.injEq]
  constructor
  · rintro ⟨f, hf, _, hhighlight, _, hsite, _, rfl, _, rfl, rfl, rfl⟩
    exact ⟨f, hf, hhighlight, hsite⟩
  · rintro ⟨f, hf, hhighlight, hsite⟩
    exact ⟨f, hf, _, hhighlight, _, hsite, _, rfl, _, rfl, rfl, rfl⟩

theorem toHighlightSettings_congr {es es' : List (String × Setting)} (h : ∀ name, es.lookup name = es'.lookup name) :
    (table es).toHighlightSettings = (table es').toHighlightSettings := by
  simp only [toHighlightSettings, fields, ok_bind, Fields.read?_congr h]

/-! ## Fields that are set -/

/-- The fields of `highlight`, if they are given by name. -/
def highlightEntries (v : Setting) : List (String × Setting) := ((v.entries.lookup "highlight").getD nil).entries

theorem highlightEntries_eq_nil {v : Setting} (h : ¬∃ es, v.entries.lookup "highlight" = some (table es)) :
    v.highlightEntries = [] := by
  rw [highlightEntries]
  cases hlookup : v.entries.lookup "highlight" with
  | none => rfl
  | some w => cases w with
    | table es => exact absurd ⟨es, hlookup⟩ h
    | _ => rfl

/-- The value with a field of `highlight` set. -/
def withHighlight (v : Setting) (name : String) (value : Setting) : Setting :=
  table (putEntry "highlight" (table (putEntry name value v.highlightEntries)) v.entries)

theorem merge_of_ne_table {name : String} {target value : Setting} (h : ∀ es, value ≠ table es) :
    merge name target value = table (putEntry (keyOf name) value target.entries) := by
  cases value with
  | table es => exact absurd rfl (h es)
  | _ => rw [merge]

theorem set_highlight {name : String} {value : Setting} (hname : keyOf name = name) (h : ∀ es, value ≠ table es)
    (v : Setting) : v.set ⟨"highlight", [.entry name]⟩ value = .ok (v.withHighlight name value) := by
  have hkey : keyOf "highlight" = "highlight" := by decide +kernel
  simp only [set, setAt, hkey, merge_of_ne_table h, hname, ok_bind]
  rfl

theorem lookup_withHighlight (v : Setting) (name : String) (value : Setting) (key : String) :
    (v.withHighlight name value).entries.lookup key =
      if key = "highlight" then some (table (putEntry name value v.highlightEntries)) else v.entries.lookup key :=
  lookup_putEntry "highlight" _ v.entries key

theorem highlightEntries_withHighlight (v : Setting) (name : String) (value : Setting) :
    (v.withHighlight name value).highlightEntries = putEntry name value v.highlightEntries := by
  rw [highlightEntries, lookup_withHighlight, if_pos rfl]
  rfl

/-- A value in which a field of `highlight` is set is read from the fields of `highlight` and from what was written for
`site`. -/
theorem toSettings_withHighlight (v : Setting) (name : String) (value : Setting) :
    (v.withHighlight name value).toSettings = do
      let highlight ← (table (putEntry name value v.highlightEntries)).toHighlightSettings
      let site ← (Fields.table v.entries).read? "site" 1 toSiteSettings
      return { highlight, site := ← requiredField "site" site } := by
  have hfields : (v.withHighlight name value).fields = .ok (.table (v.withHighlight name value).entries) := rfl
  have hhighlight : (v.withHighlight name value).entries.lookup "highlight" =
      some (table (putEntry name value v.highlightEntries)) := by rw [lookup_withHighlight, if_pos rfl]
  have hsite : (v.withHighlight name value).entries.lookup "site" = v.entries.lookup "site" := by
    rw [lookup_withHighlight, if_neg (by decide)]
  simp only [toSettings, hfields, ok_bind, Fields.read?, Fields.get?, hhighlight, hsite]
  cases (table (putEntry name value v.highlightEntries)).toHighlightSettings <;> rfl

theorem read?_site_withHighlight (v : Setting) (name : String) (value : Setting) :
    (Fields.table (v.withHighlight name value).entries).read? "site" 1 toSiteSettings =
      (Fields.table v.entries).read? "site" 1 toSiteSettings := by
  simp only [Fields.read?, Fields.get?, lookup_withHighlight, if_neg (show ¬"site" = "highlight" by decide)]

/-- The order in which two fields are set does not matter. -/
theorem toSettings_withHighlight_comm {name name' : String} (hne : name ≠ name') (v value value' : Setting) :
    ((v.withHighlight name value).withHighlight name' value').toSettings =
      ((v.withHighlight name' value').withHighlight name value).toSettings := by
  have hsame : (table (putEntry name' value' (putEntry name value v.highlightEntries))).toHighlightSettings =
      (table (putEntry name value (putEntry name' value' v.highlightEntries))).toHighlightSettings := by
    refine toHighlightSettings_congr fun key => ?_
    simp only [lookup_putEntry]
    split_ifs with h h'
    · exact absurd (h'.symm.trans h) hne
    · rfl
    · rfl
    · rfl
  rw [toSettings_withHighlight, toSettings_withHighlight, highlightEntries_withHighlight,
    highlightEntries_withHighlight, hsame, read?_site_withHighlight, read?_site_withHighlight]

/-- The value with the format and the limit of tokens set. -/
def overridden (v : Setting) (format : String) (maxTokens : Nat) : Setting :=
  (v.withHighlight "format" (text format)).withHighlight "max_tokens" (int maxTokens)

section

variable {v : Setting} {es : List (String × Setting)} {format : String} {maxTokens : Nat}

theorem toHighlightSettings_overridden {s : HighlightSettings} (h : (table es).toHighlightSettings = .ok s) :
    (table (putEntry "max_tokens" (int maxTokens) (putEntry "format" (text format) es))).toHighlightSettings =
      .ok { s with format, maxTokens } := by
  obtain ⟨f, hf, hlanguage, -, -, grammars, hgrammars, hs⟩ := toHighlightSettings_eq_ok_iff.1 h
  obtain rfl := Except.ok.inj hf
  refine toHighlightSettings_eq_ok_iff.2 ⟨_, rfl, ?_, ?_, ?_, grammars, ?_, hs⟩
  · rw [← hlanguage]
    simp [Fields.read?, Fields.get?, lookup_putEntry]
  · simp [Fields.read?, Fields.get?, lookup_putEntry, toText, Except.map]
  · simp [Fields.read?, Fields.get?, lookup_putEntry, toCount, Except.map]
  · rw [← hgrammars]
    simp [Fields.read?, Fields.get?, lookup_putEntry]

/-- If the fields of `highlight` are given by name, two of them are replaced. -/
theorem toSettings_overridden {base : Settings} (hbase : v.toSettings = .ok base)
    (h : v.entries.lookup "highlight" = some (table es)) : (v.overridden format maxTokens).toSettings =
      .ok { base with highlight := { base.highlight with format, maxTokens } } := by
  obtain ⟨f, hf, hhighlight, hsite⟩ := toSettings_eq_ok_iff.1 hbase
  have hv : f = .table v.entries := by
    cases v with
    | table es => exact (Except.ok.inj hf).symm
    | _ => simp [entries] at h
  subst hv
  obtain ⟨_, hget, hread⟩ := Fields.read?_eq_some_iff.1 hhighlight
  obtain rfl := Option.some.inj (h.symm.trans hget)
  have hentries : v.highlightEntries = es := by rw [highlightEntries, h]; rfl
  rw [overridden, toSettings_withHighlight, highlightEntries_withHighlight, hentries,
    toHighlightSettings_overridden hread, read?_site_withHighlight, hsite]
  rfl

/-- The fields of `highlight` have to be given by name. -/
theorem lookup_highlight_of_overridden {result : Settings}
    (h : (v.overridden format maxTokens).toSettings = .ok result) :
    ∃ es, v.entries.lookup "highlight" = some (table es) := by
  rw [overridden, toSettings_withHighlight, highlightEntries_withHighlight, bind_eq_ok_iff] at h
  obtain ⟨s, hs, -⟩ := h
  obtain ⟨f, hf, hlanguage, -⟩ := toHighlightSettings_eq_ok_iff.1 hs
  obtain rfl := Except.ok.inj hf
  obtain ⟨language, hget, -⟩ := Fields.read?_eq_some_iff.1 hlanguage
  simp only [Fields.get?, lookup_putEntry] at hget
  rw [if_neg (by decide), if_neg (by decide)] at hget
  by_contra hno
  rw [highlightEntries_eq_nil hno] at hget
  cases hget

end

end Setting

/-! ## Layers -/

def Layer.isOverride : Layer → Bool
  | .override _ _ => true
  | _ => false

/-- Layers among which overrides of the format and of the limit of tokens stand anywhere, in either order. -/
structure Overridden (sources : List Layer) (format : String) (maxTokens : Nat) (layers : List Layer) : Prop where
  sources_eq : layers.filter (!·.isOverride) = sources
  overrides_perm : (layers.filter Layer.isOverride).Perm
    [.override "highlight.format" (.text format), .override "highlight.max_tokens" (.int maxTokens)]

/-- The value that layers give over the defaults, before overrides are applied. -/
def Setting.ofLayers (files : ReadFile Id) (layers : List Layer) : Except SettingsError Setting := do
  let defaults ← mergeLayer (.table []) defaultLayer
  (defaults.mergeLayersFrom files layers).run

theorem Setting.mergeLayersFrom_filter (files : ReadFile Id) (target : Setting) (layers : List Layer) :
    target.mergeLayersFrom files (layers.filter (!·.isOverride)) = target.mergeLayersFrom files layers := by
  induction layers generalizing target with
  | nil => rfl
  | cons layer layers ih => cases layer with
    | override key value => exact ih target
    | _ =>
      rw [List.filter_cons_of_pos rfl, mergeLayersFrom, mergeLayersFrom]
      simp only [ih]

theorem Setting.ofLayers_filter (files : ReadFile Id) (layers : List Layer) :
    ofLayers files (layers.filter (!·.isOverride)) = ofLayers files layers := by
  simp only [ofLayers, mergeLayersFrom_filter]

theorem overridesOf_filter (layers : List Layer) :
    overridesOf (layers.filter Layer.isOverride) = overridesOf layers := by
  rw [overridesOf, List.foldlM_filter, overridesOf]
  congr 1
  funext overrides layer
  cases layer <;> rfl

/-- Settings are read from the value of the layers, after overrides are set in it. -/
theorem Settings.load_eq (files : ReadFile Id) (layers : List Layer) : (Settings.load files layers).run = (do
    let overrides ← overridesOf layers
    let v ← Setting.ofLayers files layers
    let v ← overrides.foldlM (fun v (path, value) => v.set path value) v
    v.toSettings) := by
  unfold Settings.load Setting.ofLayers
  cases overridesOf layers with
  | error e => rfl
  | ok overrides => cases Setting.mergeLayer (.table []) defaultLayer with
    | error e => rfl
    | ok defaults =>
      simp only [ok_bind, Id.run_bind]
      cases (defaults.mergeLayersFrom files layers).run <;> rfl

namespace Overridden

variable {sources layers : List Layer} {format : String} {maxTokens : Nat}

theorem overridesOf_sources (h : Overridden sources format maxTokens layers) : overridesOf sources = .ok [] := by
  have hnone : sources.filter Layer.isOverride = [] := by
    rw [← h.sources_eq, List.filter_filter]
    simp
  rw [← overridesOf_filter, hnone]
  rfl

theorem load_sources (h : Overridden sources format maxTokens layers) (files : ReadFile Id) :
    (Settings.load files sources).run = (Setting.ofLayers files sources >>= Setting.toSettings) := by
  rw [Settings.load_eq, h.overridesOf_sources]
  rfl

theorem overridesOf_layers (h : Overridden sources format maxTokens layers) :
    overridesOf layers = .ok [(⟨"highlight", [.entry "format"]⟩, .text format),
        (⟨"highlight", [.entry "max_tokens"]⟩, .int maxTokens)] ∨
      overridesOf layers = .ok [(⟨"highlight", [.entry "max_tokens"]⟩, .int maxTokens),
        (⟨"highlight", [.entry "format"]⟩, .text format)] := by
  have hformat : KeyPath.ofString? "highlight.format" = some ⟨"highlight", [.entry "format"]⟩ := by decide +kernel
  have hmax : KeyPath.ofString? "highlight.max_tokens" = some ⟨"highlight", [.entry "max_tokens"]⟩ := by decide +kernel
  rw [← overridesOf_filter]
  refine (List.perm_pair.1 h.overrides_perm).imp (fun heq => ?_) (fun heq => ?_)
  · simp [heq, overridesOf, hformat, hmax, ok_bind, addOverride]
  · simp [heq, overridesOf, hformat, hmax, ok_bind, addOverride]

/-- **Layers** with overrides give the value of the other layers, in which two fields are set. -/
theorem load_layers (h : Overridden sources format maxTokens layers) (files : ReadFile Id) :
    (Settings.load files layers).run =
      (Setting.ofLayers files sources >>= fun v => (v.overridden format maxTokens).toSettings) := by
  have hformat : ∀ v : Setting, v.set ⟨"highlight", [.entry "format"]⟩ (.text format) =
      .ok (v.withHighlight "format" (.text format)) := Setting.set_highlight (by decide +kernel) (fun _ => nofun)
  have hmax : ∀ v : Setting, v.set ⟨"highlight", [.entry "max_tokens"]⟩ (.int maxTokens) =
      .ok (v.withHighlight "max_tokens" (.int maxTokens)) := Setting.set_highlight (by decide +kernel) (fun _ => nofun)
  have hcomm := Setting.toSettings_withHighlight_comm (show "format" ≠ "max_tokens" by decide)
  rw [Settings.load_eq, ← h.sources_eq, Setting.ofLayers_filter]
  simp only [Setting.overridden]
  rcases h.overridesOf_layers with hoverrides | hoverrides
  · simp only [hoverrides, ok_bind, List.foldlM_cons, List.foldlM_nil, hformat, hmax]
    rfl
  · simp only [hoverrides, ok_bind, List.foldlM_cons, List.foldlM_nil, hformat, hmax, hcomm]
    rfl

end Overridden

/-- The command line puts its overrides after the file with settings. -/
theorem Options.overridden_layers (o : Options) {format : String} {maxTokens : Nat} (hformat : o.format = some format)
    (hmax : o.maxTokens = some maxTokens) :
    Overridden (o.config.map fun path => .file path true).toList format maxTokens o.layers := by
  unfold layers
  rw [hformat, hmax]
  cases o.config with
  | none => exact ⟨rfl, .refl _⟩
  | some path => exact ⟨rfl, .refl _⟩

/-- **Overrides set their two fields and nothing else.** The files are fixed, and layers without overrides load. If they
load with overrides of the format and of the limit of tokens anywhere among them, these two fields are what the
overrides say, and all others are as without them. All ways to place the overrides have the same outcome, and the layers
load with them exactly if the fields of `highlight` end up being given by name. -/
theorem overrides_set_their_fields (files : ReadFile Id) {sources layers : List Layer} {format : String}
    {maxTokens : Nat} {base : Settings} (h : Overridden sources format maxTokens layers)
    (hbase : (Settings.load files sources).run = .ok base) :
    (∀ result, (Settings.load files layers).run = .ok result →
      result = { base with highlight := { base.highlight with format, maxTokens } }) ∧
    (∀ others, Overridden sources format maxTokens others → Settings.load files others = Settings.load files layers) ∧
    ((∃ result, (Settings.load files layers).run = .ok result) ↔ ∃ v es,
      Setting.ofLayers files sources = .ok v ∧ v.entries.lookup "highlight" = some (.table es)) := by
  rw [h.load_sources, bind_eq_ok_iff] at hbase
  obtain ⟨v, hv, hbase⟩ := hbase
  have hload : (Settings.load files layers).run = (v.overridden format maxTokens).toSettings := by
    rw [h.load_layers, hv, ok_bind]
  refine ⟨fun result hresult => ?_, fun others hothers => ?_, fun ⟨result, hresult⟩ => ?_, fun ⟨w, es, hw, hes⟩ => ?_⟩
  · rw [hload] at hresult
    obtain ⟨es, hes⟩ := Setting.lookup_highlight_of_overridden hresult
    exact Except.ok.inj (hresult.symm.trans (Setting.toSettings_overridden hbase hes))
  · exact (hothers.load_layers files).trans (h.load_layers files).symm
  · rw [hload] at hresult
    obtain ⟨es, hes⟩ := Setting.lookup_highlight_of_overridden hresult
    exact ⟨v, es, hv, hes⟩
  · obtain rfl := Except.ok.inj (hv.symm.trans hw)
    exact ⟨_, hload.trans (Setting.toSettings_overridden hbase hes)⟩

/-- A file with settings. -/
def ReadFile.oneConfiguration : ReadFile Id
  | "tint.toml" => Except.ok "[highlight]\nformat = \"html\"\nmax_tokens = 9\n\n[site]\ntitle = \"Notes\"\n"
  | _ => Except.error FileFault.missing

/-- One override stands before the file and one after it; the command line puts both after it. -/
theorem overrides_set_their_fields_around_file :
    let layers : List Layer := [.override "highlight.max_tokens" (.int 3), .file "tint.toml" true,
      .override "highlight.format" (.text "json")]
    let options : Options := { config := some "tint.toml", format := some "json", maxTokens := some 3 }
    ∃ base result, (Settings.load ReadFile.oneConfiguration [.file "tint.toml" true]).run = .ok base ∧
      base.highlight = { defaultLanguage := "eisen", format := "html", maxTokens := 9 } ∧
      (Settings.load ReadFile.oneConfiguration layers).run = .ok result ∧
      (Settings.load ReadFile.oneConfiguration options.layers).run = .ok result ∧
      result = { base with highlight := { base.highlight with format := "json", maxTokens := 3 } } := by
  intro layers options
  have hlayers : Overridden [.file "tint.toml" true] "json" 3 layers := ⟨rfl, List.Perm.swap ..⟩
  have hoptions : Overridden [.file "tint.toml" true] "json" 3 options.layers := options.overridden_layers rfl rfl
  have hbase : (Settings.load ReadFile.oneConfiguration [.file "tint.toml" true]).run.toOption.map Settings.highlight =
      some { defaultLanguage := "eisen", format := "html", maxTokens := 9 } := by decide +kernel
  have hresult : (Settings.load ReadFile.oneConfiguration layers).run.toOption.isSome = true := by decide +kernel
  cases hload : (Settings.load ReadFile.oneConfiguration [.file "tint.toml" true]).run with
  | error e => simp [hload, Except.toOption] at hbase
  | ok base =>
    cases hload' : (Settings.load ReadFile.oneConfiguration layers).run with
    | error e => simp [hload', Except.toOption] at hresult
    | ok result =>
      obtain ⟨hset, hsame, -⟩ := overrides_set_their_fields ReadFile.oneConfiguration hlayers hload
      refine ⟨base, result, rfl, ?_, rfl, ?_, hset result hload'⟩
      · simpa [hload, Except.toOption] using hbase
      · rw [hsame _ hoptions, hload']

end Highlight
