import Formulary.Proofs.Propagation.Influence

/-!
# Transcripts

The transcript of a form says all that a host sees when it makes one request after another: how each of
them ended, and the values and the validity after it. Components are where pushes go, and nothing comes
back from them, so two forms of one definition that hold the same values have the same transcript,
whatever is mounted in either, except that a journal tells which pushes found a component
(`Form.transcript_matches`).
-/

namespace Formulary

/-- A request that concerns the values of a form. -/
inductive Request where
  | setValue (name : String) (value : Value)
  | loadValues (values : List (String × Value))
deriving DecidableEq, Repr

/-- What is seen of a request: how it ended, and the values and the validity after it. -/
structure Reply where
  outcome : Except FormError Journal
  values : List (String × Value)
  validity : Validity
deriving DecidableEq, Repr

namespace Form

/-- Meets a request. Seeding runs no rules and has nothing to tell. -/
def serve (f : Form) : Request → Except FormError (Form × Journal)
  | .setValue name value => f.setValue name value
  | .loadValues values => (f.loadValues values).map fun f' => (f', {})

/-- The form after a request; one that is refused leaves it as it was. -/
def after (f : Form) (request : Request) : Form :=
  match f.serve request with
  | .ok (f', _) => f'
  | .error _ => f

/-- The replies to requests made one after another. -/
def transcript (f : Form) : List Request → List Reply
  | [] => []
  | request :: requests =>
    let f' := f.after request
    ⟨(f.serve request).map (·.2), f'.values, f'.validate⟩ :: f'.transcript requests

end Form

/-- Both requests are refused for the same reason, or both are met and their journals match. -/
inductive Reply.OutcomesMatch : Except FormError Journal → Except FormError Journal → Prop where
  | refused (error : FormError) : OutcomesMatch (.error error) (.error error)
  | met {j k : Journal} (journals : j.Matches k) : OutcomesMatch (.ok j) (.ok k)

/-- The replies are the same up to the pushes that found a component. -/
structure Reply.Matches (a b : Reply) : Prop where
  outcome : OutcomesMatch a.outcome b.outcome
  values : b.values = a.values
  validity : b.validity = a.validity

namespace Form

variable {f g : Form}

theorem store_eq_of_values (same : g.values = f.values) : g.store = f.store :=
  congrArg Store.mk same

/-- The judgement of a form depends on its rules, its options and its values. -/
theorem validate_of_kin (kin : Kin f g) (same : g.values = f.values) : g.validate = f.validate := by
  unfold validate
  rw [kin.options, kin.lengthRules, kin.validators, store_eq_of_values same]

/-- How two forms meet one request: both refuse it for the same reason, or both come to the same values,
with journals that match. -/
inductive ServedAlike (f g : Form) (request : Request) : Prop where
  | refused {error} (one : f.serve request = .error error) (other : g.serve request = .error error)
  | met {f' g' j k} (one : f.serve request = .ok (f', j)) (other : g.serve request = .ok (g', k))
      (kin : Kin f' g') (values : g'.values = f'.values) (journals : j.Matches k)

theorem servedAlike_setValue (kin : Kin f g) (same : g.values = f.values) (name : String) (value : Value) :
    ServedAlike f g (.setValue name value) := by
  by_cases declared : name ∈ f.store.names
  · have reads : ∀ field ∈ f.store.names, Propagation.Reads f.subscriptions name field →
        g.value? field = f.value? field := by
      intro field _ _
      rw [value?, value?, store_eq_of_values same]
    obtain ⟨f', g', j, k, one, other, journals⟩ := setValue_abreast kin declared reads value
    have change := changed_of_setValue one
    have change' := changed_of_setValue other
    -- both stores come of the same one by the same writes
    have ends : some g'.store = some f'.store := by
      rw [← change'.writes, journals.writes, store_eq_of_values same, change.writes]
    exact .met one other (change.kin.symm.trans (kin.trans change'.kin))
      (congrArg Store.fields (Option.some.inj ends)) journals
  · have undeclared : name ∉ g.store.names := by rw [kin.names]; exact declared
    exact .refused (setValue_of_undeclared declared value) (setValue_of_undeclared undeclared value)

theorem servedAlike_loadValues (kin : Kin f g) (same : g.values = f.values)
    (values : List (String × Value)) : ServedAlike f g (.loadValues values) := by
  have again := loadValues_of_store (store_eq_of_values same) values
  cases one : f.loadValues values with
  | error error =>
    have other : g.loadValues values = .error error := by
      rw [again, one]
      rfl
    exact .refused (congrArg (Except.map _) one) (congrArg (Except.map _) other)
  | ok f' =>
    have other : g.loadValues values = .ok { g with store := f'.store } := by
      rw [again, one]
      rfl
    exact .met (congrArg (Except.map _) one) (congrArg (Except.map _) other)
      ((kin_of_loadValues one).symm.trans (kin.trans (kin_of_loadValues other))) rfl .nil

theorem servedAlike (kin : Kin f g) (same : g.values = f.values) (request : Request) :
    ServedAlike f g request := by
  cases request with
  | setValue name value => exact servedAlike_setValue kin same name value
  | loadValues values => exact servedAlike_loadValues kin same values

/-- **Mounted components never influence the values.** Two forms of one definition that hold the same
values are judged alike, and to any sequence of requests they give the same replies, up to the pushes
that found a component in the one and none in the other. -/
theorem transcript_matches (kin : Kin f g) (same : g.values = f.values) (requests : List Request) :
    g.validate = f.validate ∧
      List.Forall₂ Reply.Matches (f.transcript requests) (g.transcript requests) := by
  refine ⟨validate_of_kin kin same, ?_⟩
  induction requests generalizing f g with
  | nil => exact .nil
  | cons request requests ih =>
    unfold transcript after
    cases servedAlike kin same request with
    | refused one other =>
      rw [one, other]
      exact .cons ⟨.refused _, same, validate_of_kin kin same⟩ (ih kin same)
    | met one other kin' same' journals =>
      rw [one, other]
      exact .cons ⟨.met journals, same', validate_of_kin kin' same'⟩ (ih kin' same')

/-- A radio that pushes its volume to a dial and takes over a moderate one as its level, which is pushed
there as well; the last row fails, for want of a value. -/
def radio : Form where
  name := "radio"
  options := {}
  lengthRules := [("station", [.min 2])]
  subscriptions :=
    [⟨"level", ["volume"], [⟨[⟨"sp", ["dial", "angle", "volume"]⟩, ⟨"jrgt", ["volume", "7", "3"]⟩,
        ⟨"s", ["level", "volume"]⟩, ⟨"sp", ["dial", "angle"]⟩]⟩]⟩,
      ⟨"station", ["level"], [⟨[⟨"sp", ["dial", "colour", "level"]⟩, ⟨"s", ["station", "level"]⟩]⟩]⟩]
  validators := []
  issues := []
  owner := ⟨1⟩
  store := ⟨[("volume", .null), ("level", .null), ("station", .null)]⟩
  registry := { mounts := [], sheets := [], owners := 1 }

theorem radio_matches :
    let requests : List Request :=
      [.setValue "volume" (.text "6"), .setValue "bass" (.text "2"), .loadValues [("station", .text "xy")],
        .loadValues [("volume", .null), ("treble", .null)], .setValue "volume" (.text "8")]
    Kin radio (radio.mount "dial") ∧ (radio.mount "dial").values = radio.values ∧
      (radio.mount "dial").validate = radio.validate ∧
      List.Forall₂ Reply.Matches (radio.transcript requests)
        ((radio.mount "dial").transcript requests) := by
  intro requests
  have kin : Kin radio (radio.mount "dial") := kin_of_requests .refl (.single turns_mountIn)
  exact ⟨kin, rfl, transcript_matches kin rfl requests⟩

end Form

end Formulary
