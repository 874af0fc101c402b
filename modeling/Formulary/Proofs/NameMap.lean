import Mathlib.Data.List.Induction
import Mathlib.Data.List.Nodup
import Formulary.NameMap

/-!
# Laws of maps by name

What a name reads once an entry is put in (`get?_insert`), for which the order of the entries does not
matter, and in the map of a list (`get?_ofList`), in which no entry gets lost if their names differ
(`get?_ofList_eq_some_iff`). As its entries are in increasing order of names, a map lists no name twice
(`nodup_names`).
-/

namespace Formulary.NameMap

variable {α : Type} {m : NameMap α} {es : List (String × α)} {name x : String} {a : α}

theorem find?_place :
    ((place name a es).find? (·.1 == x)).map (·.2) =
      if x = name then some a else (es.find? (·.1 == x)).map (·.2) := by
  induction es with
  | nil => by_cases same : x = name <;> simp [place, same, Ne.symm]
  | cons e es ih =>
    obtain ⟨n, b⟩ := e
    by_cases equal : name = n
    · subst equal
      rw [place, if_pos rfl]
      by_cases same : x = name <;> simp [same, Ne.symm]
    · by_cases less : name < n
      · rw [place, if_neg equal, if_pos less]
        by_cases same : x = name <;> simp [same, Ne.symm]
      · rw [place, if_neg equal, if_neg less]
        by_cases here : n = x
        · subst here
          simp [Ne.symm equal]
        · simp [here, ih]

/-- After an entry is put in, its name reads it, and every other name what it read before. -/
theorem get?_insert : (m.insert name a).get? x = if x = name then some a else m.get? x :=
  find?_place

theorem ofList_concat : ofList (es ++ [(name, a)]) = (ofList es).insert name a := by
  simp [ofList]

/-- In the map of a list a name reads its last entry. -/
theorem get?_ofList : (ofList es).get? x = (es.reverse.find? (·.1 == x)).map (·.2) := by
  induction es using List.reverseRecOn with
  | nil => rfl
  | append_singleton es e ih =>
    obtain ⟨n, b⟩ := e
    rw [ofList_concat, get?_insert, ih, List.reverse_append]
    by_cases same : x = n
    · simp [same]
    · simp [same, Ne.symm same]

/-- Of entries with distinct names each is read. -/
theorem get?_ofList_eq_some_iff (distinct : (es.map (·.1)).Nodup) :
    (ofList es).get? x = some a ↔ (x, a) ∈ es := by
  rw [get?_ofList, Option.map_eq_some_iff]
  constructor
  · rintro ⟨e, found, rfl⟩
    have named : e.1 = x := by simpa using List.find?_some found
    have mem : e ∈ es := List.mem_reverse.1 (List.mem_of_find?_eq_some found)
    rwa [← named]
  · intro mem
    have found : (es.reverse.find? (·.1 == x)).isSome = true := by
      apply List.find?_isSome.2
      exact ⟨(x, a), List.mem_reverse.2 mem, by simp⟩
    obtain ⟨e, last⟩ := Option.isSome_iff_exists.1 found
    have named : e.1 = x := by simpa using List.find?_some last
    have mem' : e ∈ es := List.mem_reverse.1 (List.mem_of_find?_eq_some last)
    have same : e = (x, a) := List.inj_on_of_nodup_map distinct mem' mem named
    exact ⟨e, last, by rw [same]⟩

theorem contains_eq_isSome : m.contains x = (m.get? x).isSome := by
  rw [Bool.eq_iff_iff, contains, get?, Option.isSome_map, List.find?_isSome, List.any_eq_true]

theorem place_ne_nil : place name a es ≠ [] := by
  cases es with
  | nil => exact List.cons_ne_nil _ _
  | cons e es =>
    unfold place
    split
    · exact List.cons_ne_nil _ _
    · split
      · exact List.cons_ne_nil _ _
      · exact List.cons_ne_nil _ _

theorem isEmpty_ofList : (ofList es).isEmpty = es.isEmpty := by
  rcases List.eq_nil_or_concat es with rfl | ⟨es, e, rfl⟩
  · rfl
  · rw [List.concat_eq_append, ofList_concat, insert, isEmpty, List.isEmpty_eq_false_iff.2 place_ne_nil]
    simp

/-- The names of a map are distinct. -/
theorem nodup_names (m : NameMap α) : (m.entries.map (·.1)).Nodup := by
  have differ : ∀ {x y : String}, x < y → x ≠ y := by
    rintro x _ less rfl
    exact String.lt_irrefl x less
  exact (List.pairwise_map.2 m.sorted).imp differ

end Formulary.NameMap
