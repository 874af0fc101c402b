import Mathlib.Data.List.Induction
import Formulary.Form.Basic
import Formulary.Proofs.Store

/-!
# The store is an ordered map

A store is a list that is searched from the front. What it holds is told by the calls made on it and their
answers, without looking into it: the names are those of the declarations, each where it stood first
(`names_past`), and a name reads what the last call on it that succeeded has brought (`get?_past`). A call that
fails changes nothing (`serve_of_fails`). `ordered_map` puts these together.
-/

namespace Formulary

namespace Store

/-- A call on a store that may change it. -/
inductive Call where
  | declare (name : String) (value : Value)
  | set (name : String) (value : Value)
deriving DecidableEq, Repr

/-- The answer to a call. -/
inductive Answer where
  /-- The field was declared, unless there had been one of its name. -/
  | declared (fresh : Bool)
  | set (result : Except FormError Unit)
deriving DecidableEq

namespace Call

/-- The name the call is about and the value it brings. -/
def entry : Call → String × Value
  | .declare name value => (name, value)
  | .set name value => (name, value)

/-- The name the call declares, whether for the first time or again. -/
def declaration? : Call → Option String
  | .declare name _ => some name
  | .set .. => none

end Call

/-- The call did what it was made for. -/
def Answer.succeeds : Answer → Bool
  | .declared fresh => fresh
  | .set (.ok ()) => true
  | .set (.error _) => false

/-- Serves a call. -/
def serve (s : Store) : Call → Answer × Store
  | .declare name value =>
    match s.declare? name value with
    | some s' => (.declared true, s')
    | none => (.declared false, s)
  | .set name value =>
    match s.set? name value with
    | some s' => (.set (.ok ()), s')
    | none => (.set (.error (.unknownField name)), s)

/-- What has come of calls: the store, and what the calls that succeeded have brought, in order. -/
structure Past where
  store : Store := empty
  entries : List (String × Value) := []
deriving DecidableEq, Repr

/-- The past once another call is served. -/
def Past.next (p : Past) (c : Call) : Past where
  store := (p.store.serve c).2
  entries := if (p.store.serve c).1.succeeds then p.entries ++ [c.entry] else p.entries

/-- The past of calls made on a new store, one after another. -/
def past (h : List Call) : Past :=
  h.foldl Past.next {}

/-- The names that calls declare, in order, with repetitions. -/
def declarations (h : List Call) : List String :=
  h.filterMap Call.declaration?

variable {s : Store} {h : List Call} {c : Call} {name x : String} {v : Value}

@[simp] theorem past_concat : past (h ++ [c]) = (past h).next c := by
  simp [past]

/-! ## Serving a call -/

theorem serve_declare : s.serve (.declare name v) =
    if name ∈ s.names then (.declared false, s) else (.declared true, ⟨s.fields ++ [(name, v)]⟩) := by
  by_cases declared : name ∈ s.names
  · simp [serve, declare?, contains_iff.2 declared, declared]
  · simp [serve, declare?, contains_eq_false_iff.2 declared, declared]

theorem serve_set : s.serve (.set name v) =
    if name ∈ s.names then (.set (.ok ()), ⟨replace name v s.fields⟩)
    else (.set (.error (.unknownField name)), s) := by
  by_cases declared : name ∈ s.names
  · simp [serve, set?_of_mem declared, declared]
  · simp [serve, set?_of_not_mem declared, declared]

/-- A call that fails leaves the store as it was. -/
theorem serve_of_fails (fails : (s.serve c).1.succeeds = false) : (s.serve c).2 = s := by
  cases c with
  | declare name value =>
    rw [serve_declare] at fails ⊢
    by_cases declared : name ∈ s.names
    · rw [if_pos declared]
    · rw [if_neg declared] at fails
      cases fails
  | set name value =>
    rw [serve_set] at fails ⊢
    by_cases declared : name ∈ s.names
    · rw [if_pos declared] at fails
      cases fails
    · rw [if_neg declared]

theorem find?_concat {fields : List (String × Value)} :
    find? x (fields ++ [(name, v)]) = (find? x fields).or (if name = x then some v else none) := by
  induction fields with
  | nil => rfl
  | cons entry rest ih =>
    obtain ⟨n, w⟩ := entry
    by_cases here : n = x
    · simp [find?, here]
    · simp [find?, here, ih]

/-- After a call that succeeds its name reads what it brought, and every other name what it read before. -/
theorem get?_of_succeeds (succeeds : (s.serve c).1.succeeds = true) :
    (s.serve c).2.get? x = if x = c.entry.1 then some c.entry.2 else s.get? x := by
  cases c with
  | declare name value =>
    rw [serve_declare] at succeeds ⊢
    by_cases declared : name ∈ s.names
    · rw [if_pos declared] at succeeds
      cases succeeds
    · rw [if_neg declared]
      change find? x (s.fields ++ [(name, value)]) = if x = name then some value else s.get? x
      rw [find?_concat]
      by_cases same : x = name
      · have absent : find? x s.fields = none := get?_of_not_mem (same ▸ declared)
        rw [absent, if_pos same.symm, if_pos same, Option.none_or]
      · rw [if_neg (Ne.symm same), if_neg same, Option.or_none]
        rfl
  | set name value =>
    rw [serve_set] at succeeds ⊢
    by_cases declared : name ∈ s.names
    · rw [if_pos declared]
      exact find?_replace declared
    · rw [if_neg declared] at succeeds
      cases succeeds

theorem names_serve_declare : (s.serve (.declare name v)).2.names =
    if name ∈ s.names then s.names else s.names ++ [name] := by
  rw [serve_declare]
  by_cases declared : name ∈ s.names
  · rw [if_pos declared, if_pos declared]
  · rw [if_neg declared, if_neg declared]
    exact List.map_append

theorem names_serve_set : (s.serve (.set name v)).2.names = s.names := by
  rw [serve_set]
  by_cases declared : name ∈ s.names
  · rw [if_pos declared]
    exact names_replace
  · rw [if_neg declared]

/-! ## What calls come to -/

theorem eraseDups_concat {as : List String} {a : String} :
    (as ++ [a]).eraseDups = if a ∈ as then as.eraseDups else as.eraseDups ++ [a] := by
  by_cases mem : a ∈ as <;> simp [List.eraseDups_append, List.removeAll, List.eraseDups_cons, mem]

theorem nodup_eraseDups {as : List String} : as.eraseDups.Nodup := by
  induction as using List.reverseRecOn with
  | nil => exact List.nodup_nil
  | append_singleton as a ih =>
    rw [eraseDups_concat]
    split
    · exact ih
    · rename_i other
      have apart : a ∉ as.eraseDups := mt List.mem_eraseDups.1 other
      rw [← List.concat_eq_append, List.nodup_concat]
      exact ⟨apart, ih⟩

/-- **The names are those declared**, each where it was declared first. -/
theorem names_past : (past h).store.names = (declarations h).eraseDups := by
  induction h using List.reverseRecOn with
  | nil => rfl
  | append_singleton h c ih =>
    rw [past_concat, Past.next, declarations, List.filterMap_append, ← declarations]
    cases c with
    | declare name value =>
      change ((past h).store.serve (.declare name value)).2.names = (declarations h ++ [name]).eraseDups
      rw [names_serve_declare, ih, eraseDups_concat]
      simp only [List.mem_eraseDups]
    | set name value =>
      change ((past h).store.serve (.set name value)).2.names = (declarations h ++ []).eraseDups
      rw [names_serve_set, ih, List.append_nil]

theorem mem_names_past : name ∈ (past h).store.names ↔ name ∈ declarations h := by
  rw [names_past, List.mem_eraseDups]

/-- **A name reads what the last call on it that succeeded has brought.** -/
theorem get?_past :
    (past h).store.get? x = ((past h).entries.reverse.find? (·.1 == x)).map (·.2) := by
  induction h using List.reverseRecOn with
  | nil => rfl
  | append_singleton h c ih =>
    rw [past_concat, Past.next]
    cases outcome : ((past h).store.serve c).1.succeeds with
    | false => rw [serve_of_fails outcome, if_neg Bool.false_ne_true, ih]
    | true =>
      rw [get?_of_succeeds outcome, if_pos rfl, List.reverse_append, List.reverse_singleton,
        List.singleton_append, ih]
      by_cases same : x = c.entry.1
      · simp [same]
      · simp [same, Ne.symm same]

/-- **The store is an ordered map**, whatever calls have been made on it. No name is listed twice, and listed are
the names declared, in the order of their first declarations. A declaration succeeds exactly if it is the first
of its name, and a write exactly if its name is declared; one that fails leaves the store as it was. A name
reads what the last declaration or write of it that succeeded has brought, and nothing if there is none; and a
snapshot lists that for any names, in the order asked, with null for a name without a value. -/
theorem ordered_map (h : List Call) :
    (past h).store.names.Nodup ∧
    (past h).store.names = (declarations h).eraseDups ∧
    (∀ name value, ((past h).store.serve (.declare name value)).1 =
      .declared (decide (name ∉ declarations h))) ∧
    (∀ name value, ((past h).store.serve (.set name value)).1 =
      .set (if name ∈ declarations h then .ok () else .error (.unknownField name))) ∧
    (∀ c, ((past h).store.serve c).1.succeeds = false → ((past h).store.serve c).2 = (past h).store) ∧
    (∀ name, (past h).store.get? name =
      ((past h).entries.reverse.find? (·.1 == name)).map (·.2)) ∧
    ∀ asked, (past h).store.snapshot asked = asked.map fun name =>
      (((past h).entries.reverse.find? (·.1 == name)).map (·.2)).getD .null := by
  refine ⟨?_, names_past, ?_, ?_, fun c => serve_of_fails, fun name => get?_past, ?_⟩
  · rw [names_past]
    exact nodup_eraseDups
  · intro name value
    rw [serve_declare]
    by_cases declared : name ∈ declarations h <;> simp [mem_names_past, declared]
  · intro name value
    rw [serve_set]
    by_cases declared : name ∈ declarations h <;> simp [mem_names_past, declared]
  · intro asked
    rw [snapshot]
    simp only [get?_past]

/-- A name that is declared again keeps its place and its value, and one is not declared by being written. -/
example :
    past [.declare "b" .null, .set "c" (.text "x"), .declare "a" (.text "y"), .declare "b" (.text "z"),
        .set "a" .null] =
      { store := ⟨[("b", .null), ("a", .null)]⟩
        entries := [("b", .null), ("a", .text "y"), ("a", .null)] } := by
  decide

end Store

end Formulary
