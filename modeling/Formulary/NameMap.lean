/-!
# Maps sorted by name

A map from names to values whose entries are listed by name, in the order of code points. Reports
list fields and properties in this order. That no map lists its entries otherwise, and so none twice,
is part of what a map is: an entry is put in at its place (`NameMap.Sorted.place`).
-/

namespace Formulary

/-- The entries are listed in increasing order of names. -/
def NameMap.Sorted {α : Type} (es : List (String × α)) : Prop :=
  es.Pairwise fun e e' => e.1 < e'.1

/-- A map from names, its entries in increasing order of names. -/
structure NameMap (α : Type) where
  entries : List (String × α)
  sorted : NameMap.Sorted entries
deriving Repr, DecidableEq

namespace NameMap

variable {α : Type}

/-- The map without entries. -/
def empty : NameMap α :=
  ⟨[], .nil⟩

instance : Inhabited (NameMap α) := ⟨empty⟩

/-- Puts an entry at its place in a sorted list, instead of the one of the same name. -/
def place (name : String) (a : α) : List (String × α) → List (String × α)
  | [] => [(name, a)]
  | (n, b) :: rest =>
    if name = n then (name, a) :: rest
    else if name < n then (name, a) :: (n, b) :: rest
    else (n, b) :: place name a rest

theorem mem_place {name : String} {a : α} {es : List (String × α)} {e : String × α}
    (h : e ∈ place name a es) : e = (name, a) ∨ e ∈ es := by
  induction es with
  | nil => exact .inl (List.mem_singleton.1 h)
  | cons e' es ih =>
    unfold place at h
    split at h
    · exact (List.mem_cons.1 h).imp_right (List.mem_cons_of_mem _)
    · split at h
      · exact List.mem_cons.1 h
      · rcases List.mem_cons.1 h with rfl | later
        · exact .inr List.mem_cons_self
        · exact (ih later).imp_right (List.mem_cons_of_mem _)

theorem Sorted.place {name : String} {a : α} {es : List (String × α)} (h : Sorted es) :
    Sorted (place name a es) := by
  induction es with
  | nil => exact List.pairwise_singleton _ _
  | cons e es ih =>
    obtain ⟨first, rest⟩ := List.pairwise_cons.1 h
    unfold NameMap.place
    split
    · rename_i equal
      exact List.pairwise_cons.2 ⟨equal ▸ first, rest⟩
    · rename_i differs
      split
      · rename_i less
        refine List.pairwise_cons.2 ⟨fun e' mem => ?_, h⟩
        rcases List.mem_cons.1 mem with rfl | later
        · exact less
        · exact String.lt_trans less (first e' later)
      · rename_i notLess
        have greater : e.1 < name :=
          String.not_le.1 fun atMost => differs (String.le_antisymm atMost (String.not_lt.1 notLess))
        refine List.pairwise_cons.2 ⟨fun e' mem => ?_, ih rest⟩
        rcases mem_place mem with rfl | later
        · exact greater
        · exact first e' later

/-- The map with an entry added or replaced. -/
def insert (m : NameMap α) (name : String) (a : α) : NameMap α :=
  ⟨place name a m.entries, m.sorted.place⟩

/-- The value of a name. -/
def get? (m : NameMap α) (name : String) : Option α :=
  (m.entries.find? (·.1 == name)).map (·.2)

/-- The name has an entry. -/
def contains (m : NameMap α) (name : String) : Bool :=
  m.entries.any (·.1 == name)

/-- There are no entries. -/
def isEmpty (m : NameMap α) : Bool :=
  m.entries.isEmpty

/-- The map of a list of entries; of two with the same name the later counts. -/
def ofList (entries : List (String × α)) : NameMap α :=
  entries.foldl (fun m (name, a) => m.insert name a) empty

end NameMap

end Formulary
