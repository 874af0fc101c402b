import Mathlib.Data.List.Nodup
import Formulary.Form.Store

/-!
# Laws of the store

What a field reads after a write (`get?_of_set?`), and what a write keeps: the names and their order
(`names_of_set?`). A write succeeds for the declared names and for no others (`set?_isSome_iff`).
Fields of distinct names are declared as they are listed (`fields_declareAll`), and what they read does
not depend on the order (`find?_of_perm`).
-/

namespace Formulary.Store

variable {s s' : Store} {name x : String} {v : Value}

theorem find?_isSome_iff {fields : List (String × Value)} :
    (find? name fields).isSome = true ↔ name ∈ fields.map (·.1) := by
  induction fields with
  | nil => simp [find?]
  | cons entry rest ih =>
    obtain ⟨n, w⟩ := entry
    by_cases h : n = name
    · simp [find?, h]
    · simp [find?, h, ih, Ne.symm h]

theorem contains_iff : s.contains name = true ↔ name ∈ s.names :=
  find?_isSome_iff

theorem contains_eq_false_iff : s.contains name = false ↔ name ∉ s.names := by
  rw [← Bool.not_eq_true, contains_iff]

theorem get?_of_not_mem (h : name ∉ s.names) : s.get? name = none :=
  Option.not_isSome_iff_eq_none.1 fun found => h (contains_iff.1 found)

theorem names_replace {fields : List (String × Value)} :
    (replace name v fields).map (·.1) = fields.map (·.1) := by
  induction fields with
  | nil => rfl
  | cons entry rest ih =>
    obtain ⟨n, w⟩ := entry
    by_cases h : n = name
    · simp [replace, h]
    · simp [replace, h, ih]

theorem find?_replace {fields : List (String × Value)} (h : name ∈ fields.map (·.1)) :
    find? x (replace name v fields) = if x = name then some v else find? x fields := by
  induction fields with
  | nil => simp at h
  | cons entry rest ih =>
    obtain ⟨n, w⟩ := entry
    by_cases hn : n = name
    · subst hn
      by_cases hx : x = n
      · simp [replace, find?, hx]
      · simp [replace, find?, hx, Ne.symm hx]
    · have inRest : name ∈ rest.map (·.1) := by simpa [Ne.symm hn] using h
      by_cases hx : n = x
      · subst hx
        simp [replace, find?, hn]
      · simp [replace, find?, hn, hx, ih inRest]

theorem set?_of_mem (h : name ∈ s.names) : s.set? name v = some ⟨replace name v s.fields⟩ := by
  simp [set?, contains_iff.2 h]

theorem set?_of_not_mem (h : name ∉ s.names) : s.set? name v = none := by
  simp [set?, contains_eq_false_iff.2 h]

theorem set?_isSome_iff : (s.set? name v).isSome = true ↔ name ∈ s.names := by
  by_cases h : name ∈ s.names
  · simp [set?_of_mem h, h]
  · simp [set?_of_not_mem h, h]

theorem mem_of_set? (h : s.set? name v = some s') : name ∈ s.names :=
  set?_isSome_iff.1 (by rw [h]; rfl)

theorem eq_of_set? (h : s.set? name v = some s') : s' = ⟨replace name v s.fields⟩ := by
  rw [set?_of_mem (mem_of_set? h)] at h
  exact (Option.some.inj h).symm

/-- What has a value can be written. -/
theorem exists_set? {w : Value} (holds : s.get? name = some w) (v : Value) :
    ∃ s', s.set? name v = some s' := by
  have declared : name ∈ s.names := contains_iff.1 (by rw [contains, holds]; rfl)
  exact Option.isSome_iff_exists.1 (set?_isSome_iff.2 declared)

/-- Writing a field changes no name and no order. -/
theorem names_of_set? (h : s.set? name v = some s') : s'.names = s.names := by
  rw [eq_of_set? h]
  exact names_replace

/-- After a write the field reads the value written, and every other field what it read before. -/
theorem get?_of_set? (h : s.set? name v = some s') :
    s'.get? x = if x = name then some v else s.get? x := by
  rw [eq_of_set? h]
  exact find?_replace (mem_of_set? h)

theorem replace_comm {other : String} {w : Value} {fields : List (String × Value)} (h : name ≠ other) :
    replace other w (replace name v fields) = replace name v (replace other w fields) := by
  induction fields with
  | nil => rfl
  | cons entry rest ih =>
    obtain ⟨n, u⟩ := entry
    by_cases first : n = name
    · subst first
      simp [replace, h]
    · by_cases second : n = other
      · subst second
        simp [replace, first]
      · simp [replace, first, second, ih]

theorem contains_replace : contains ⟨replace name v s.fields⟩ x = s.contains x := by
  rw [Bool.eq_iff_iff, contains_iff, contains_iff, names, names_replace]
  rfl

/-- Two fields can be written in either order. -/
theorem set?_comm {other : String} {w : Value} (h : name ≠ other) :
    (s.set? name v).bind (·.set? other w) = (s.set? other w).bind (·.set? name v) := by
  by_cases first : s.contains name = true <;> by_cases second : s.contains other = true <;>
    simp [set?, first, second, contains_replace, replace_comm h]

theorem find?_eq_find? {fields : List (String × Value)} :
    find? name fields = (fields.find? (·.1 == name)).map (·.2) := by
  induction fields with
  | nil => rfl
  | cons entry rest ih =>
    obtain ⟨n, w⟩ := entry
    by_cases h : n = name
    · simp [find?, h]
    · simp [find?, h, ih]

/-- Among entries of distinct names a name reads the value it is listed with. -/
theorem find?_eq_some_iff {fields : List (String × Value)} (distinct : (fields.map (·.1)).Nodup) :
    find? name fields = some v ↔ (name, v) ∈ fields := by
  induction fields with
  | nil => simp [find?]
  | cons entry rest ih =>
    obtain ⟨n, w⟩ := entry
    obtain ⟨apart, others⟩ := List.nodup_cons.1 distinct
    by_cases h : n = name
    · subst h
      have only : (n, v) ∉ rest := fun mem => apart (List.mem_map.2 ⟨_, mem, rfl⟩)
      simp [find?, only, eq_comm]
    · simp [find?, h, ih others, Ne.symm h]

/-- What they read does not depend on the order of the entries. -/
theorem find?_of_perm {fields fields' : List (String × Value)} (distinct : (fields.map (·.1)).Nodup)
    (perm : fields'.Perm fields) : find? name fields' = find? name fields := by
  have distinct' : (fields'.map (·.1)).Nodup := (perm.map _).nodup_iff.2 distinct
  ext v
  rw [find?_eq_some_iff distinct', find?_eq_some_iff distinct, perm.mem_iff]

/-- Fields of distinct new names are declared in the order listed. -/
theorem fields_declareAll {fields : List (String × Value)} (distinct : (fields.map (·.1)).Nodup)
    (fresh : ∀ n ∈ fields.map (·.1), n ∉ s.names) :
    (s.declareAll fields).fields = s.fields ++ fields := by
  induction fields generalizing s with
  | nil => exact (List.append_nil _).symm
  | cons entry rest ih =>
    obtain ⟨n, w⟩ := entry
    obtain ⟨apart, others⟩ := List.nodup_cons.1 distinct
    have absent : s.contains n = false := contains_eq_false_iff.2 (fresh n List.mem_cons_self)
    have declared : s.declareAll ((n, w) :: rest) =
        Store.declareAll ⟨s.fields ++ [(n, w)]⟩ rest := by
      simp [declareAll, declare?, absent]
    have stillFresh : ∀ m ∈ rest.map (·.1), m ∉ Store.names ⟨s.fields ++ [(n, w)]⟩ := by
      intro m mem again
      rw [names, List.map_append, List.mem_append, List.map_singleton, List.mem_singleton] at again
      rcases again with old | new
      · exact fresh m (List.mem_cons_of_mem _ mem) old
      · subst new
        exact apart mem
    rw [declared, ih others stillFresh, List.append_assoc, List.singleton_append]

end Formulary.Store
