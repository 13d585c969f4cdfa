import Highlight.File.Tree
import Highlight.Settings.Decode
import Highlight.Settings.Defaults
import Highlight.Settings.Merge
import Highlight.Toml.Reader

/-!
# Loading settings

Settings are layers over the defaults: texts and files are merged one after the other, and single values given by a path
are set after all of them, wherever they stand among the layers.
-/

namespace Highlight

/-- A layer of settings. -/
inductive Layer where
  | source (content : String)
  /-- A file; if it need not be there, one that cannot be read is left out. -/
  | file (path : String) (isRequired : Bool)
  | override (key : String) (value : Setting)
deriving Inhabited

/-- Values to be set at their paths, in the order in which the paths were first given. -/
abbrev Overrides := List (KeyPath × Setting)

/-- Adds an override; one for the same path is replaced. -/
def addOverride (path : KeyPath) (value : Setting) : Overrides → Overrides
  | [] => [(path, value)]
  | (p, v) :: os => if p = path then (p, value) :: os else (p, v) :: addOverride path value os

/-- The overrides among layers. -/
def overridesOf (layers : List Layer) : Except SettingsError Overrides :=
  layers.foldlM (fun overrides layer =>
    match layer with
    | .override key value => match KeyPath.ofString? key with
      | some path => .ok (addOverride path value overrides)
      | none => .error (.keyPath key)
    | _ => .ok overrides) []

/-- Merges the settings that a text writes. -/
def Setting.mergeSource (target : Setting) (source : String) : Except SettingsError Setting :=
  match Toml.parse source with
  | .ok entries => target.mergeLayer (settingEntries entries)
  | .error e => .error (.syntaxError e.message)

section

variable {m : Type → Type} [Monad m]

/-- Whether a path leads to a file, whatever its content. -/
def leadsToFile : Except FileFault String → Bool
  | .ok _ => true
  | .error .notText => true
  | .error _ => false

/-- Finds a configuration file. If the path does not lead to one, the extension may have been left out. -/
def findSettings (read : ReadFile m) (path : String) : m (Except FileFault String) := do
  let found ← read path
  if leadsToFile found then return found
  match FilePath.withSuffix? path ".toml" with
  | some path => read path
  | none => return .error .missing

/-- Merges one layer; overrides wait until all are merged. -/
def Setting.mergeLayerFrom (read : ReadFile m) (target : Setting) : Layer → m (Except SettingsError Setting)
  | .source content => return target.mergeSource content
  | .file path isRequired => do
    match ← findSettings read path with
    | .ok content => return target.mergeSource content
    | .error _ => return if isRequired then .error (.unreadable path) else .ok target
  | .override _ _ => return .ok target

/-- Merges layers one after the other. -/
def Setting.mergeLayersFrom (read : ReadFile m) (target : Setting) : List Layer → m (Except SettingsError Setting)
  | [] => return .ok target
  | layer :: layers => do
    match ← target.mergeLayerFrom read layer with
    | .ok target => target.mergeLayersFrom read layers
    | .error e => return .error e

/-- The settings of the given layers over the defaults. -/
def Settings.load (read : ReadFile m) (layers : List Layer) : m (Except SettingsError Settings) := do
  match overridesOf layers, Setting.mergeLayer (.table []) defaultLayer with
  | .ok overrides, .ok defaults =>
    match ← defaults.mergeLayersFrom read layers with
    | .ok merged => return do
      let merged ← overrides.foldlM (fun target (path, value) => target.set path value) merged
      merged.toSettings
    | .error e => return .error e
  | .error e, _ => return .error e
  | _, .error e => return .error e

end

end Highlight
