import Formulary.Proofs.Propagation.Termination
import Formulary.Proofs.Seeding
import Formulary.Proofs.Traversal

/-!
# Seeding is all or nothing

Seeding (`Form.seed`) looks all names up before it writes the first field. The two passes could disagree: writing
the fields one after another ends with an error at a field that is not declared, and leaves what was written
before it (`Store.setEach`). They do not, since writing a field declares none and removes none
(`Store.setEach_of_declared`): that error is never come upon, and a form is seeded with all the values or left as
it is (`Form.loadValues_all_or_nothing`).
-/

namespace Formulary

/-- **Declared fields are written without an error.** -/
theorem Store.setEach_of_declared {s : Store} {values : List (String × Value)}
    (declared : ∀ n ∈ values.map (·.1), n ∈ s.names) :
    ∃ s', Form.setAll? s values = some s' ∧ s.setEach values = (.ok (), s') := by
  induction values generalizing s with
  | nil => exact ⟨s, rfl, rfl⟩
  | cons entry rest ih =>
    obtain ⟨name, value⟩ := entry
    obtain ⟨first, others⟩ := List.forall_mem_cons.1 declared
    obtain ⟨next, written⟩ := Option.isSome_iff_exists.1 (set?_isSome_iff.2 first)
    rw [← names_of_set? written] at others
    obtain ⟨s', all, each⟩ := ih others
    refine ⟨s', ?_, ?_⟩
    · rw [Form.setAll?, written, Option.bind_some, all]
    · rw [setEach, written]
      exact each

namespace Form

variable {f : Form} {values : List (String × Value)} {name : String} {value : Value}

/-- The first name that is not declared is what looking all names up comes upon. -/
theorem find?_of_first {n : Nat}
    (first : First (fun entry => entry.1 ∉ f.store.names) values n (name, value)) :
    (values.find? fun (name, _) => !f.store.contains name) = some (name, value) := by
  apply First.find?_eq
  apply first.congr
  intro entry _
  rw [Bool.not_eq_true', Store.contains_eq_false_iff]

theorem find?_of_declared (declared : ∀ n ∈ values.map (·.1), n ∈ f.store.names) :
    (values.find? fun (name, _) => !f.store.contains name) = none := by
  refine List.find?_eq_none.2 fun entry mem unknown => ?_
  rw [Bool.not_eq_true', Store.contains_eq_false_iff] at unknown
  exact unknown (declared _ (List.mem_map_of_mem mem))

/-- **Seeding is all or nothing.** If some name listed is not declared, the first such name is the error, and the
form is left as it was. Otherwise no error comes up: every field listed holds the last value listed for it, every
other field what it held, over the same fields in the same order, and nothing else of the form is changed. No
rule has to do with it: the values of the fields alone say what becomes of them. -/
theorem loadValues_all_or_nothing (f : Form) (values : List (String × Value)) :
    ((∃ name ∈ values.map (·.1), name ∉ f.store.names) →
      ∃ n name value, First (fun entry => entry.1 ∉ f.store.names) values n (name, value) ∧
        f.loadValues values = .error (.unknownField name) ∧
        f.seed values = (.error (.unknownField name), f)) ∧
      ((∀ name ∈ values.map (·.1), name ∈ f.store.names) →
        ∃ store, f.loadValues values = .ok { f with store } ∧
          f.seed values = (.ok (), { f with store }) ∧
          f.store.setEach values = (.ok (), store) ∧
          store.names = f.store.names ∧
          (∀ before name value after, values = before ++ (name, value) :: after →
            name ∉ after.map (·.1) → store.get? name = some value) ∧
          (∀ name ∉ values.map (·.1), store.get? name = f.store.get? name) ∧
          ∀ g : Form, g.store = f.store → g.loadValues values = .ok { g with store }) := by
  constructor
  · rintro ⟨name, listed, undeclared⟩
    obtain ⟨entry, mem, rfl⟩ := List.mem_map.1 listed
    obtain ⟨n, ⟨first, value⟩, is⟩ :=
      exists_first (P := fun entry => entry.1 ∉ f.store.names) ⟨entry, mem, undeclared⟩
    refine ⟨n, first, value, is, ?_, ?_⟩
    · rw [loadValues, seed, find?_of_first is]
      rfl
    · rw [seed, find?_of_first is]
  · intro declared
    obtain ⟨store, all, each⟩ := Store.setEach_of_declared declared
    have loads : f.loadValues values = .ok { f with store } := by
      rw [loadValues, seed, find?_of_declared declared, each]
      rfl
    refine ⟨store, loads, ?_, each, names_of_setAll? all, ?_, ?_, ?_⟩
    · rw [seed, find?_of_declared declared, each]
    · rintro before name value after rfl last
      exact get?_of_setAll?_of_last all last
    · exact fun name absent => get?_of_setAll?_of_not_mem all absent
    · intro g same
      rw [loadValues_of_store same, loads]
      rfl

/-- Two fields that copy each other are seeded with two different texts, one of them given a text before, and a
list that names two undeclared fields behind a declared one is refused for the first of the two. -/
theorem mirrors_all_or_nothing :
    ((∀ name ∈ ["left", "right", "left"], name ∈ mirrors.store.names) ∧
      ∃ store,
        mirrors.loadValues [("left", .text "a"), ("right", .text "c"), ("left", .text "b")] =
          .ok { mirrors with store } ∧
        store.get? "left" = some (.text "b") ∧ store.get? "right" = some (.text "c")) ∧
      ((∃ name ∈ ["left", "middle", "centre"], name ∉ mirrors.store.names) ∧
        mirrors.seed [("left", .text "a"), ("middle", .text "b"), ("centre", .text "c")] =
          (.error (.unknownField "middle"), mirrors)) := by
  refine ⟨⟨by decide, ?_⟩, by decide, ?_⟩
  · obtain ⟨store, loads, _, _, _, last, _, _⟩ :=
      (loadValues_all_or_nothing mirrors [("left", .text "a"), ("right", .text "c"), ("left", .text "b")]).2
        (by decide)
    refine ⟨store, loads, ?_, ?_⟩
    · exact last [("left", .text "a"), ("right", .text "c")] "left" (.text "b") [] rfl (by decide)
    · exact last [("left", .text "a")] "right" (.text "c") [("left", .text "b")] rfl (by decide)
  · obtain ⟨n, name, value, first, _, refused⟩ :=
      (loadValues_all_or_nothing mirrors [("left", .text "a"), ("middle", .text "b"), ("centre", .text "c")]).1
        (by decide)
    cases first with
    | here undeclared => exact absurd (by decide) undeclared
    | later _ first =>
      cases first with
      | here => exact refused
      | later declared => exact absurd (by decide) declared

end Form

end Formulary
