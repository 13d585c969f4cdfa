import Highlight.Settings.Value

/-!
# Default settings

The settings that all others are merged into.
-/

namespace Highlight

namespace Setting

/-- A page of the navigation. -/
def page (text link : String) : Setting := table [("text", .text text), ("link", .text link)]

/-- A section of the navigation that can be folded away. -/
def sectionOf (text : String) (pages : List Setting) : Setting :=
  table [("text", .text text), ("collapsible", bool true), ("items", list pages)]

end Setting

open Setting

def defaultHighlight : Setting :=
  table [("default_language", text "eisen"), ("format", text "simple"), ("max_tokens", int 0)]

def defaultSidebar : List Setting :=
  [sectionOf "Introduction"
      [page "Syntax 101" "/intro/syntax", page "Functions" "/intro/functions", page "Structs" "/intro/structs",
        page "Variables" "/intro/variables", page "Data Structs" "/intro/data_structs.md",
        page "Modules" "/intro/modules.md"],
    sectionOf "Memory Model"
      [page "Pointers" "/memory/pointers.md", page "Arrays" "/memory/arrays.md", page "Boxes" "/memory/boxes.md"],
    sectionOf "Inheritance Model"
      [page "Overview" "/abstraction/overview.md", page "Member Functions" "/abstraction/member_functions.md",
        page "Interfaces" "/abstraction/interfaces.md", page "Embedded Structs" "/abstraction/embedded_structs.md",
        page "Variants" "/abstraction/variants.md", page "Casting" "/abstraction/casting.md"]]

def defaultSite : Setting :=
  table
    [("title", text "Eisen PL"), ("site_title", text "Eisen PL"), ("theme", text "vitesse-dark"),
      ("social_links", list [table [("icon", text "github"), ("link", text "https://github.com/ktvng/eisen")]]),
      ("nav", list [page "Home" "/"]), ("sidebar", list defaultSidebar)]

/-- The first layer of all settings. -/
def defaultLayer : List (String × Setting) := [("highlight", defaultHighlight), ("site", defaultSite)]

end Highlight
