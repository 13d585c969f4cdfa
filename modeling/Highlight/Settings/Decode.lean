import Highlight.Settings.Basic
import Highlight.Settings.Value

/-!
# Settings from values

A record is a table of its fields, or a list of their values in order; fields that the record does not have are ignored.
The fields that are there are read before missing ones are reported.
-/

namespace Highlight

/-- The fields of a record, by name in a table and by place in a list. -/
inductive Fields (α : Type) where
  | table (entries : List (String × α))
  | list (values : List α)

namespace Fields

/-- The value of a field, given its name and its place. -/
def get? {α : Type} (f : Fields α) (name : String) (place : Nat) : Option α := match f with
  | table entries => entries.lookup name
  | list values => values[place]?

/-- Reads a field if it is there. -/
def read? {α β : Type} (f : Fields α) (name : String) (place : Nat) (read : α → Except SettingsError β) :
    Except SettingsError (Option β) :=
  match f.get? name place with
  | some v => (read v).map some
  | none => .ok none

end Fields

/-- A field that must be there. -/
def requiredField {α : Type} (name : String) : Option α → Except SettingsError α
  | some a => .ok a
  | none => .error (.wrongShape s!"the field {name} is missing")

namespace Setting

/-- The fields of a record. -/
def fields : Setting → Except SettingsError (Fields Setting)
  | table es => .ok (.table es)
  | list vs => .ok (.list vs)
  | _ => .error (.wrongShape "a value is not a table")

/-- A list of values that are all read alike. -/
def toList {α : Type} (read : Setting → Except SettingsError α) : Setting → Except SettingsError (List α)
  | list vs => vs.mapM read
  | _ => .error (.wrongShape "a value is not a list")

/-- A text that may be absent. -/
def toOptionalText : Setting → Except SettingsError (Option String)
  | nil => .ok none
  | v => v.toText.map some

def toGrammarSource (v : Setting) : Except SettingsError GrammarSource := do
  let f ← v.fields
  let name ← f.read? "name" 0 toText
  let path ← f.read? "path" 1 toText
  return { name := ← requiredField "name" name, path := ← requiredField "path" path }

def toSocialLink (v : Setting) : Except SettingsError SocialLink := do
  let f ← v.fields
  let icon ← f.read? "icon" 0 toText
  let link ← f.read? "link" 1 toText
  return { icon := ← requiredField "icon" icon, link := ← requiredField "link" link }

/-- A value with what it is as a list of entries, if it is one. -/
abbrev NavField := Setting × Except SettingsError (List NavEntry)

/-- The entry with the given fields. -/
def navEntryOf (f : Fields NavField) : Except SettingsError NavEntry := do
  let text ← f.read? "text" 0 fun v => v.1.toText
  let link ← f.read? "link" 1 fun v => v.1.toOptionalText
  let collapsible ← f.read? "collapsible" 2 fun v => v.1.toBool
  let items ← f.read? "items" 3 fun v => v.2
  return .mk (← requiredField "text" text) (link.getD none) (collapsible.getD false) (items.getD [])

mutual

/-- The navigation entry that a value writes. -/
def toNavEntry : Setting → Except SettingsError NavEntry
  | table es => navEntryOf (.table (navFieldEntries es))
  | list vs => navEntryOf (.list (navFields vs))
  | _ => .error (.wrongShape "a navigation entry is not a table")

/-- The list of navigation entries that a value writes. -/
def toNavEntries : Setting → Except SettingsError (List NavEntry)
  | list vs => navItems vs
  | _ => .error (.wrongShape "navigation entries are not a list")

def navItems : List Setting → Except SettingsError (List NavEntry)
  | [] => .ok []
  | v :: vs => match v.toNavEntry with
    | .error e => .error e
    | .ok entry => (navItems vs).map (entry :: ·)

def navFields : List Setting → List NavField
  | [] => []
  | v :: vs => (v, v.toNavEntries) :: navFields vs

def navFieldEntries : List (String × Setting) → List (String × NavField)
  | [] => []
  | (name, v) :: es => (name, v, v.toNavEntries) :: navFieldEntries es

end

def toHighlightSettings (v : Setting) : Except SettingsError HighlightSettings := do
  let f ← v.fields
  let defaultLanguage ← f.read? "default_language" 0 toText
  let format ← f.read? "format" 1 toText
  let maxTokens ← f.read? "max_tokens" 2 toCount
  let grammars ← f.read? "grammars" 3 (toList toGrammarSource)
  return {
    defaultLanguage := ← requiredField "default_language" defaultLanguage
    format := ← requiredField "format" format
    maxTokens := ← requiredField "max_tokens" maxTokens
    grammars := grammars.getD [] }

def toSiteSettings (v : Setting) : Except SettingsError SiteSettings := do
  let f ← v.fields
  let title ← f.read? "title" 0 toText
  let siteTitle ← f.read? "site_title" 1 toText
  let theme ← f.read? "theme" 2 toText
  let socialLinks ← f.read? "social_links" 3 (toList toSocialLink)
  let nav ← f.read? "nav" 4 toNavEntries
  let sidebar ← f.read? "sidebar" 5 toNavEntries
  return {
    title := ← requiredField "title" title
    siteTitle := ← requiredField "site_title" siteTitle
    theme := ← requiredField "theme" theme
    socialLinks := socialLinks.getD []
    nav := nav.getD []
    sidebar := sidebar.getD [] }

/-- The settings that a value writes. -/
def toSettings (v : Setting) : Except SettingsError Settings := do
  let f ← v.fields
  let highlight ← f.read? "highlight" 0 toHighlightSettings
  let site ← f.read? "site" 1 toSiteSettings
  return { highlight := ← requiredField "highlight" highlight, site := ← requiredField "site" site }

end Setting

end Highlight
