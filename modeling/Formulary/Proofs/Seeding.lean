import Formulary.Form.Basic
import Formulary.Proofs.Store

/-!
# Writing many fields

`Form.setAll?` writes fields one after another, and comes to nothing if one of them is not declared. It keeps
the names and their order, each field ends with the last value listed for it (`get?_of_setAll?`), and lists of
different fields can be written in either order (`setAll?_comm`).
-/

namespace Formulary

/-- However far it comes, writing keeps the names. -/
theorem Store.names_setEach {s : Store} {values : List (String × Value)} :
    (s.setEach values).2.names = s.names := by
  induction values generalizing s with
  | nil => rfl
  | cons entry rest ih =>
    obtain ⟨name, value⟩ := entry
    cases written : s.set? name value with
    | none => rw [setEach, written]
    | some next => rw [setEach, written, ih, names_of_set? written]

namespace Form

/-- Replaces the values of fields one after another; none if one of them is no field. -/
def setAll? : Store → List (String × Value) → Option Store
  | s, [] => some s
  | s, (name, value) :: rest => (s.set? name value).bind (setAll? · rest)

variable {s s' : Store} {values others : List (String × Value)} {name x : String} {v : Value}

theorem names_of_setAll? (written : setAll? s values = some s') : s'.names = s.names := by
  induction values generalizing s with
  | nil =>
    cases written
    rfl
  | cons entry rest ih =>
    obtain ⟨next, first, later⟩ := Option.bind_eq_some_iff.1 written
    rw [ih later, Store.names_of_set? first]

/-- Only declared fields can be written. -/
theorem mem_names_of_setAll? (written : setAll? s values = some s') (mem : x ∈ values.map (·.1)) :
    x ∈ s.names := by
  induction values generalizing s with
  | nil => cases mem
  | cons entry rest ih =>
    obtain ⟨next, first, later⟩ := Option.bind_eq_some_iff.1 written
    rcases List.mem_cons.1 mem with rfl | inRest
    · exact Store.mem_of_set? first
    · rw [← Store.names_of_set? first]
      exact ih later inRest

/-- **A field ends with the last value listed for it**, and with the one it had if there is none. -/
theorem get?_of_setAll? (written : setAll? s values = some s') :
    s'.get? x = ((values.reverse.find? (·.1 == x)).map (·.2)).or (s.get? x) := by
  induction values generalizing s with
  | nil =>
    cases written
    rfl
  | cons entry rest ih =>
    obtain ⟨n, w⟩ := entry
    obtain ⟨next, first, later⟩ := Option.bind_eq_some_iff.1 written
    rw [ih later, Store.get?_of_set? first, List.reverse_cons, List.find?_append]
    cases rest.reverse.find? (·.1 == x) with
    | some entry => rfl
    | none =>
      by_cases h : x = n
      · simp [h]
      · simp [h, Ne.symm h]

theorem find?_reverse_of_not_mem (absent : x ∉ values.map (·.1)) : values.reverse.find? (·.1 == x) = none := by
  refine List.find?_eq_none.2 fun entry mem same => absent ?_
  exact List.mem_map.2 ⟨entry, List.mem_reverse.1 mem, by simpa using same⟩

/-- A field not listed keeps its value. -/
theorem get?_of_setAll?_of_not_mem (written : setAll? s values = some s')
    (absent : x ∉ values.map (·.1)) : s'.get? x = s.get? x := by
  rw [get?_of_setAll? written, find?_reverse_of_not_mem absent]
  rfl

/-- A field ends with a value behind which it is not listed again. -/
theorem get?_of_setAll?_of_last {before after : List (String × Value)}
    (written : setAll? s (before ++ (name, v) :: after) = some s') (last : name ∉ after.map (·.1)) :
    s'.get? name = some v := by
  rw [get?_of_setAll? written]
  simp [List.find?_append, find?_reverse_of_not_mem last]

/-- What a field listed ends with does not depend on the store. -/
theorem get?_of_setAll?_of_mem {t t' : Store} (written : setAll? s values = some s')
    (written' : setAll? t values = some t') (mem : x ∈ values.map (·.1)) : t'.get? x = s'.get? x := by
  have found : (values.reverse.find? (·.1 == x)).isSome = true := by
    obtain ⟨entry, listed, rfl⟩ := List.mem_map.1 mem
    exact List.find?_isSome.2 ⟨entry, List.mem_reverse.2 listed, by simp⟩
  obtain ⟨entry, last⟩ := Option.isSome_iff_exists.1 found
  rw [get?_of_setAll? written, get?_of_setAll? written', last]
  rfl

theorem setAll?_bind_set? (apart : name ∉ values.map (·.1)) :
    (setAll? s values).bind (·.set? name v) = (s.set? name v).bind (setAll? · values) := by
  induction values generalizing s with
  | nil => simp only [setAll?, Option.bind_some, Option.bind_fun_some]
  | cons entry rest ih =>
    obtain ⟨n, w⟩ := entry
    obtain ⟨other, others⟩ := not_or.1 (List.mem_cons.not.1 apart)
    calc (setAll? s ((n, w) :: rest)).bind (·.set? name v)
        = (s.set? n w).bind fun t => (setAll? t rest).bind (·.set? name v) := Option.bind_assoc _ _ _
      _ = (s.set? n w).bind fun t => (t.set? name v).bind (setAll? · rest) := by simp only [ih others]
      _ = ((s.set? n w).bind (·.set? name v)).bind (setAll? · rest) := (Option.bind_assoc _ _ _).symm
      _ = ((s.set? name v).bind (·.set? n w)).bind (setAll? · rest) := by rw [Store.set?_comm (Ne.symm other)]
      _ = (s.set? name v).bind (setAll? · ((n, w) :: rest)) := Option.bind_assoc _ _ _

/-- **Lists of different fields can be written in either order.** -/
theorem setAll?_comm (apart : ∀ n ∈ values.map (·.1), n ∉ others.map (·.1)) :
    (setAll? s values).bind (setAll? · others) = (setAll? s others).bind (setAll? · values) := by
  induction values generalizing s with
  | nil => simp only [setAll?, Option.bind_some, Option.bind_fun_some]
  | cons entry rest ih =>
    obtain ⟨n, w⟩ := entry
    have first : n ∉ others.map (·.1) := apart n List.mem_cons_self
    have later : ∀ m ∈ rest.map (·.1), m ∉ others.map (·.1) :=
      fun m mem => apart m (List.mem_cons_of_mem _ mem)
    calc (setAll? s ((n, w) :: rest)).bind (setAll? · others)
        = (s.set? n w).bind fun t => (setAll? t rest).bind (setAll? · others) := Option.bind_assoc _ _ _
      _ = (s.set? n w).bind fun t => (setAll? t others).bind (setAll? · rest) := by simp only [ih later]
      _ = ((s.set? n w).bind (setAll? · others)).bind (setAll? · rest) := (Option.bind_assoc _ _ _).symm
      _ = ((setAll? s others).bind (·.set? n w)).bind (setAll? · rest) := by
        rw [setAll?_bind_set? first]
      _ = (setAll? s others).bind (setAll? · ((n, w) :: rest)) := Option.bind_assoc _ _ _

/-- Seeding that ends without an error leaves what it has written. -/
theorem of_loadValues {f f' : Form} (loaded : f.loadValues values = .ok f') :
    f' = { f with store := (f.store.setEach values).2 } := by
  unfold loadValues seed at loaded
  split at loaded
  · cases loaded
  · dsimp only at loaded
    cases outcome : (f.store.setEach values).1 with
    | error e =>
      rw [outcome] at loaded
      cases loaded
    | ok =>
      rw [outcome] at loaded
      exact (Except.ok.inj loaded).symm

/-- Seeding goes by the values of the fields alone. -/
theorem loadValues_of_store {f g : Form} (same : g.store = f.store) (values : List (String × Value)) :
    g.loadValues values = (f.loadValues values).map fun f' => { g with store := f'.store } := by
  unfold loadValues seed
  rw [same]
  split
  · rfl
  · dsimp only
    cases (f.store.setEach values).1 <;> rfl

end Form

end Formulary
