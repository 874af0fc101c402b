import Formulary.Form.Registry

/-!
# Laws of the registry

A push is delivered exactly if the identifier is bound (`push?_isSome`), and it writes on a sheet
only: the mounts, and with them what is bound, stay as they are (`mounts_of_push?`).
-/

namespace Formulary.Registry

variable {r r' : Registry} {identifier property : String} {v : Value}

theorem contains_congr (h : r.mounts = r'.mounts) : r.contains identifier = r'.contains identifier := by
  simp only [contains, h]

theorem find?_isSome : (r.find? identifier).isSome = r.contains identifier := by
  rw [Bool.eq_iff_iff, find?, contains, List.find?_isSome, List.any_eq_true]

theorem push?_isSome : (r.push? identifier property v).isSome = r.contains identifier := by
  rw [push?, Option.isSome_map, find?_isSome]

theorem contains_of_push? (h : r.push? identifier property v = some r') :
    r.contains identifier = true := by
  have bound : (r.push? identifier property v).isSome = r.contains identifier := push?_isSome
  rw [← bound, h]
  rfl

theorem not_contains_of_push? (h : r.push? identifier property v = none) :
    r.contains identifier = false := by
  have bound : (r.push? identifier property v).isSome = r.contains identifier := push?_isSome
  rw [← bound, h]
  rfl

theorem mounts_of_push? (h : r.push? identifier property v = some r') : r'.mounts = r.mounts := by
  obtain ⟨m, -, rfl⟩ := Option.map_eq_some_iff.1 h
  rfl

end Formulary.Registry
