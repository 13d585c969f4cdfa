import Highlight.Navigation

/-!
# Settings

What a session is set up with: how texts are highlighted, and the site that the navigation belongs to.
-/

namespace Highlight

/-- A grammar file and the name of the language it is for. -/
structure GrammarSource where
  name : String
  path : String
deriving Repr, DecidableEq, Inhabited

structure HighlightSettings where
  /-- The language of files whose extension is no language. -/
  defaultLanguage : String
  /-- The name of the report format. -/
  format : String
  /-- How many tokens are written at most; zero means all of them. -/
  maxTokens : Nat
  grammars : List GrammarSource := []
deriving Repr, DecidableEq, Inhabited

/-- How many tokens are written at most, if there is a limit. -/
def HighlightSettings.tokenLimit (s : HighlightSettings) : Option Nat :=
  if 0 < s.maxTokens then some s.maxTokens else none

structure SocialLink where
  icon : String
  link : String
deriving Repr, DecidableEq, Inhabited

structure SiteSettings where
  title : String
  siteTitle : String
  theme : String
  socialLinks : List SocialLink := []
  nav : List NavEntry := []
  sidebar : List NavEntry := []
deriving Repr, Inhabited

/-- The title of the site, and an outline of its navigation. -/
def SiteSettings.navigation (s : SiteSettings) : String :=
  s!"{s.siteTitle} ({s.theme})\n" ++ NavEntry.outline "nav" s.nav ++ NavEntry.outline "sidebar" s.sidebar

structure Settings where
  highlight : HighlightSettings
  site : SiteSettings
deriving Repr, Inhabited

end Highlight
