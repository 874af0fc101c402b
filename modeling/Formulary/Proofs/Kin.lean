import Formulary.Form.Validity
import Formulary.Proofs.Propagation.Termination
import Formulary.Proofs.Seeding

/-!
# Forms of one definition

Requests change the values and the components of a form and nothing else. So all forms that come of one
form, as the forms of one definition under one set of options do, are kin: they have the same rules over
the same fields (`kin_of_requests`).
-/

namespace Formulary.Form

open Propagation

variable {f f' g h : Form} {name : String} {value : Value}

/-- The forms have the same rules over the same fields, under the same options. -/
structure Kin (f g : Form) : Prop where
  options : g.options = f.options
  lengthRules : g.lengthRules = f.lengthRules
  subscriptions : g.subscriptions = f.subscriptions
  validators : g.validators = f.validators
  names : g.store.names = f.store.names

theorem Kin.refl (f : Form) : Kin f f :=
  ⟨rfl, rfl, rfl, rfl, rfl⟩

theorem Kin.symm (k : Kin f g) : Kin g f :=
  ⟨k.options.symm, k.lengthRules.symm, k.subscriptions.symm, k.validators.symm, k.names.symm⟩

theorem Kin.trans (k : Kin f g) (k' : Kin g h) : Kin f h :=
  ⟨k'.options.trans k.options, k'.lengthRules.trans k.lengthRules,
    k'.subscriptions.trans k.subscriptions, k'.validators.trans k.validators, k'.names.trans k.names⟩

/-- Other values of the same fields make a form that is kin. -/
theorem kin_of_store {store : Store} (names : store.names = f.store.names) : Kin f { f with store } :=
  ⟨rfl, rfl, rfl, rfl, names⟩

/-- The forms hold the same values and have the same components mounted, whatever their rules. -/
structure SameState (f g : Form) : Prop where
  store : g.store = f.store
  registry : g.registry = f.registry

theorem SameState.change_eq (same : SameState f g) : g.change = f.change := by
  rw [change, change, same.store, same.registry]

theorem exists_setValue (declared : name ∈ f.store.names) (value : Value) :
    ∃ f' j, f.setValue name value = .ok (f', j) := by
  obtain ⟨store, c, -, -, result⟩ := setValue_course declared value
  exact ⟨_, _, result⟩

/-- Only a declared field can be changed. -/
theorem declared_of_setValue {j : Journal} (changed : f.setValue name value = .ok (f', j)) :
    name ∈ f.store.names := by
  by_contra undeclared
  rw [setValue_of_undeclared undeclared] at changed
  cases changed

/-- Nothing else is refused. -/
theorem undeclared_of_setValue {e : FormError} (refused : f.setValue name value = .error e) :
    name ∉ f.store.names ∧ e = .unknownField name := by
  have undeclared : name ∉ f.store.names := by
    intro declared
    obtain ⟨f', j, changed⟩ := exists_setValue declared value
    rw [changed] at refused
    cases refused
  rw [setValue_of_undeclared undeclared] at refused
  cases refused
  exact ⟨undeclared, rfl⟩

theorem kin_of_setValue {j : Journal} (changed : f.setValue name value = .ok (f', j)) : Kin f f' := by
  obtain ⟨store, c, set, notified, result⟩ := setValue_course (declared_of_setValue changed) value
  rw [changed] at result
  cases result
  have names : c.store.names = store.names := notified.level.names
  exact ⟨rfl, rfl, rfl, rfl, names.trans (Store.names_of_set? set)⟩

theorem kin_of_loadValues {values : List (String × Value)} (loaded : f.loadValues values = .ok f') :
    Kin f f' := by
  obtain rfl := of_loadValues loaded
  exact ⟨rfl, rfl, rfl, rfl, Store.names_setEach⟩

/-- A request, or whatever becomes of the components, takes the first form to the second: they may be mounted
and released by any owners, one of them under several names, or left to another registry. -/
inductive Turns : Form → Form → Prop where
  | setValue {f f' name value j} (changed : f.setValue name value = .ok (f', j)) : Turns f f'
  | loadValues {f f' values} (loaded : f.loadValues values = .ok f') : Turns f f'
  | components (f : Form) (registry : Registry) : Turns f { f with registry }

theorem turns_mountIn {owner : Owner} {identifier : String} {component : Component} :
    Turns f (f.mountIn owner identifier component) :=
  .components f _

theorem Turns.kin (turns : Turns f f') : Kin f f' := by
  cases turns with
  | setValue changed => exact kin_of_setValue changed
  | loadValues loaded => exact kin_of_loadValues loaded
  | components registry => exact ⟨rfl, rfl, rfl, rfl, rfl⟩

/-- **Forms that come of one form by any requests are kin.** -/
theorem kin_of_requests (turns : Relation.ReflTransGen Turns f g) (turns' : Relation.ReflTransGen Turns f h) :
    Kin g h := by
  have kept : ∀ {f'}, Relation.ReflTransGen Turns f f' → Kin f f' := by
    intro f' turns
    induction turns with
    | refl => exact .refl f
    | tail _ turn ih => exact ih.trans turn.kin
  exact (kept turns).symm.trans (kept turns')

end Formulary.Form
