/-!
# Tables

A table holds one value for each of its keys, in ascending order of the keys. The order is part of the type, so two
tables with the same entries are equal however they were filled.
-/

namespace Highlight

/-- Puts an entry at its place among ascending entries; the value of a key that is there is replaced. -/
def insertEntry {κ α : Type} [Ord κ] (k : κ) (v : α) : List (κ × α) → List (κ × α)
  | [] => [(k, v)]
  | (k', v') :: rest => match compare k k' with
    | .lt => (k, v) :: (k', v') :: rest
    | .eq => (k, v) :: rest
    | .gt => (k', v') :: insertEntry k v rest

/-- Ascending keys. -/
def Ascending {κ α : Type} [Ord κ] (entries : List (κ × α)) : Prop :=
  entries.Pairwise fun a b => compare a.1 b.1 = .lt

/-- An entry stays above a bound that the inserted key and the old entries are above. -/
theorem forall_mem_insertEntry {κ α : Type} [Ord κ] {p : κ × α → Prop} {k : κ} {v : α} :
    ∀ {entries : List (κ × α)}, p (k, v) → (∀ e ∈ entries, p e) → ∀ e ∈ insertEntry k v entries, p e
  | [], hk, _, e, he => by
    simp only [insertEntry, List.mem_singleton] at he
    exact he ▸ hk
  | (k', v') :: rest, hk, hr, e, he => by
    simp only [insertEntry] at he
    split at he
    · rcases List.mem_cons.1 he with rfl | he
      · exact hk
      · exact hr e he
    · rcases List.mem_cons.1 he with rfl | he
      · exact hk
      · exact hr e (List.mem_cons_of_mem _ he)
    · rcases List.mem_cons.1 he with rfl | he
      · exact hr _ (List.mem_cons_self ..)
      · exact forall_mem_insertEntry hk (fun e he => hr e (List.mem_cons_of_mem _ he)) e he

/-- Inserting keeps the keys ascending. -/
theorem ascending_insertEntry {κ α : Type} [Ord κ] [Std.TransOrd κ] [Std.LawfulEqOrd κ] (k : κ) (v : α) :
    ∀ {entries : List (κ × α)}, Ascending entries → Ascending (insertEntry k v entries)
  | [], _ => List.pairwise_singleton ..
  | (k', v') :: rest, h => by
    obtain ⟨above, tail⟩ := List.pairwise_cons.1 h
    simp only [insertEntry]
    split
    next hlt =>
      refine List.pairwise_cons.2 ⟨fun e he => ?_, h⟩
      rcases List.mem_cons.1 he with rfl | he
      · exact hlt
      · exact Std.TransCmp.lt_trans hlt (above e he)
    next heq =>
      have hk : k = k' := Std.LawfulEqOrd.eq_of_compare heq
      exact List.pairwise_cons.2 ⟨fun e he => hk ▸ above e he, tail⟩
    next hgt =>
      have hlt : compare k' k = .lt := Std.OrientedCmp.lt_of_gt hgt
      exact List.pairwise_cons.2 ⟨forall_mem_insertEntry hlt above, ascending_insertEntry k v tail⟩

/-- Entries by ascending keys. -/
structure Table (κ α : Type) [Ord κ] where
  entries : List (κ × α)
  ascending : Ascending entries

namespace Table

variable {κ α : Type} [Ord κ]

def empty : Table κ α := ⟨[], List.Pairwise.nil⟩

instance : Inhabited (Table κ α) := ⟨empty⟩

/-- Adds an entry, or replaces the value of its key. -/
def insert [Std.TransOrd κ] [Std.LawfulEqOrd κ] (t : Table κ α) (k : κ) (v : α) : Table κ α :=
  ⟨insertEntry k v t.entries, ascending_insertEntry k v t.ascending⟩

/-- The table of the given entries; of two with the same key the later one counts. -/
def ofList [Std.TransOrd κ] [Std.LawfulEqOrd κ] (entries : List (κ × α)) : Table κ α :=
  entries.foldl (fun t e => t.insert e.1 e.2) empty

def get? [BEq κ] (t : Table κ α) (k : κ) : Option α :=
  t.entries.lookup k

def contains [BEq κ] (t : Table κ α) (k : κ) : Bool := (t.get? k).isSome

def keys (t : Table κ α) : List κ := t.entries.map (·.1)

def size (t : Table κ α) : Nat := t.entries.length

def isEmpty (t : Table κ α) : Bool := t.entries.isEmpty

end Table

end Highlight
