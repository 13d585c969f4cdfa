/-!
# Navigation

The entries of a site's navigation are a forest. `walk` visits it depth first with a list of entries that are still
to be visited; `NavEntry.preorder` is the same order by recursion.
-/

namespace Highlight

/-- A section or a page; sections have entries of their own, pages have a link. -/
inductive NavEntry where
  | mk (text : String) (link : Option String) (isCollapsible : Bool) (items : List NavEntry)
deriving Repr, Inhabited

namespace NavEntry

def text : NavEntry → String
  | mk text _ _ _ => text

def link : NavEntry → Option String
  | mk _ link _ _ => link

def isCollapsible : NavEntry → Bool
  | mk _ _ isCollapsible _ => isCollapsible

def items : NavEntry → List NavEntry
  | mk _ _ _ items => items

mutual

/-- The entry and all inside of it, each with its depth. -/
def preorder (depth : Nat) : NavEntry → List (Nat × NavEntry)
  | mk text link isCollapsible items =>
    (depth, mk text link isCollapsible items) :: preorderAll (depth + 1) items

def preorderAll (depth : Nat) : List NavEntry → List (Nat × NavEntry)
  | [] => []
  | e :: es => e.preorder depth ++ preorderAll depth es

end

mutual

/-- The number of entries in a tree. -/
def count : NavEntry → Nat
  | mk _ _ _ items => 1 + countAll items

def countAll : List NavEntry → Nat
  | [] => 0
  | e :: es => e.count + countAll es

end

/-- The number of entries in the trees that are still to be visited. -/
def countPending : List (Nat × NavEntry) → Nat
  | [] => 0
  | (_, e) :: es => e.count + countPending es

theorem countPending_append (xs ys : List (Nat × NavEntry)) :
    countPending (xs ++ ys) = countPending xs + countPending ys := by
  induction xs with
  | nil => simp [countPending]
  | cons x xs ih => simp only [List.cons_append, countPending, ih]; omega

theorem countPending_map (depth : Nat) (es : List NavEntry) : countPending (es.map (depth, ·)) = countAll es := by
  induction es with
  | nil => rfl
  | cons e es ih => simp only [List.map_cons, countPending, countAll, ih]

/-- Visits the first pending entry, and then what is inside of it before the other pending entries. -/
def walkPending : List (Nat × NavEntry) → List (Nat × NavEntry)
  | [] => []
  | (depth, e) :: pending => (depth, e) :: walkPending (e.items.map (depth + 1, ·) ++ pending)
termination_by pending => countPending pending
decreasing_by
  rw [countPending_append, countPending_map]
  cases e with
  | mk text link isCollapsible inside => simp only [items, countPending, count]; omega

/-- All entries of a forest depth first, in the order in which they were written, each with its depth. -/
def walk (entries : List NavEntry) : List (Nat × NavEntry) := entries.flatMap fun e => walkPending [(0, e)]

/-- The line of an entry. -/
def line (depth : Nat) (e : NavEntry) : String :=
  let indent := String.ofList (List.replicate (2 * (depth + 1)) ' ')
  let mark := if e.isCollapsible then "+ " else ""
  let target := match e.link with
    | some link => " -> " ++ link
    | none => ""
  indent ++ mark ++ e.text ++ target ++ "\n"

/-- A heading and a line for each entry; nothing if there are no entries. -/
def outline (heading : String) (entries : List NavEntry) : String :=
  if entries.isEmpty then ""
  else heading ++ ":\n" ++ String.join ((walk entries).map fun (depth, e) => e.line depth)

end NavEntry

end Highlight
