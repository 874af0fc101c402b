import Mathlib.Data.List.Nodup
import Formulary.Proofs.Kin

/-!
# The forms there are

A form starts as built from a definition, and requests take it from there. They change its values and
components and nothing else, so what building establishes about the rules holds of every form there is,
whatever is mounted in it, be it one component twice: no two subscriptions are of the same field
(`Reachable.fields_nodup`).
-/

namespace Formulary

namespace FormDefinition

theorem nodup_of_checkNamesFrom {seen : List String} {fs : List FieldDefinition}
    (ok : checkNamesFrom seen fs = .ok ()) :
    (fs.map (·.name)).Nodup ∧ ∀ f ∈ fs, f.name ∉ seen := by
  induction fs generalizing seen with
  | nil => simp
  | cons f fs ih =>
    unfold checkNamesFrom at ok
    split at ok
    · cases ok
    · split at ok
      · cases ok
      · rename_i fresh
        obtain ⟨distinct, others⟩ := ih ok
        have apart : f.name ∉ fs.map (·.name) := by
          intro again
          obtain ⟨g, mem, same⟩ := List.mem_map.1 again
          exact others g mem (same ▸ List.mem_cons_self)
        refine ⟨List.nodup_cons.2 ⟨apart, distinct⟩, fun g mem => ?_⟩
        rcases List.mem_cons.1 mem with rfl | later
        · simpa using fresh
        · exact fun old => others g later (List.mem_cons_of_mem _ old)

/-- Names that pass the check differ. -/
theorem nodup_of_checkNames {d : FormDefinition} (ok : d.checkNames = .ok ()) : d.fieldNames.Nodup :=
  (nodup_of_checkNamesFrom ok).1

end FormDefinition

namespace FieldSetup

variable {d : FormDefinition} {f : FieldDefinition} {s : Subscription}

/-- The subscription of a field carries its name. -/
theorem field_of_subscription? (h : (subscription? d f).1 = some s) : s.field = f.name := by
  unfold subscription? at h
  split at h
  · cases h
  · split at h
    · dsimp only at h
      split at h
      · cases h
        rfl
      · cases h
    · cases h

theorem fields_sublist (fs : List FieldDefinition) :
    List.Sublist (((fs.map (ofField d)).filterMap (·.subscription)).map (·.field))
      (fs.map (·.name)) := by
  induction fs with
  | nil => exact List.Sublist.slnil
  | cons f fs ih =>
    cases h : (ofField d f).subscription with
    | none =>
      simp only [List.map_cons, List.filterMap_cons, h]
      exact ih.cons _
    | some s =>
      simp only [List.map_cons, List.filterMap_cons, h, field_of_subscription? h]
      exact ih.cons_cons _

end FieldSetup

namespace Form

/-- The forms that come of a definition by any sequence of requests, whatever becomes of their components in
between. -/
inductive Reachable : Form → Prop where
  | built {d options f} (ok : build d options = .ok f) : Reachable f
  | turned {f f'} (before : Reachable f) (turns : Turns f f') : Reachable f'

variable {f : Form}

theorem fields_nodup_of_build {d : FormDefinition} {options : RunOptions}
    (ok : build d options = .ok f) : (f.subscriptions.map (·.field)).Nodup := by
  unfold build at ok
  split at ok
  · rename_i named
    cases ok
    exact (FieldSetup.fields_sublist d.fields).nodup (FormDefinition.nodup_of_checkNames named)
  · cases ok

/-- **No two subscriptions of a form are of the same field.** -/
theorem Reachable.fields_nodup (h : Reachable f) : (f.subscriptions.map (·.field)).Nodup := by
  induction h with
  | built ok => exact fields_nodup_of_build ok
  | turned _ turns ih =>
    rw [turns.kin.subscriptions]
    exact ih

/-- The field of a subscription tells it from the others. -/
theorem Reachable.eq_of_field {s s' : Subscription} (h : Reachable f) (mem : s ∈ f.subscriptions)
    (mem' : s' ∈ f.subscriptions) (same : s'.field = s.field) : s' = s :=
  List.inj_on_of_nodup_map h.fields_nodup mem' mem same

end Form

end Formulary
