import Mathlib.Data.List.Induction
import Mathlib.Data.List.Nodup
import Formulary.Proofs.NameMap
import Formulary.Proofs.Registry

/-!
# The life of a mounted component

What has become of every component is told by the requests made of a registry, without looking into it:
`ledger` numbers the mounts in the order made, and one is live unless its owner has been released since. The
registry holds exactly those mounts (`mounts_past`), and it calls a component only while its mount is live
(`live_of_mem_calls`), so the call that destroys it is the last one (`pairwise_calls_past`). A sheet is what
the calls on its component, in order, make of an empty one (`sheet_past`). `life_cycle` puts these together.
-/

namespace Formulary

namespace Registry

/-- A request made of a registry. -/
inductive Request where
  | newOwner
  | add (identifier : String) (owner : Owner)
  | push (identifier property : String) (value : Value)
  | release (owner : Owner)
deriving DecidableEq, Repr

/-- The answer to a request. -/
inductive Answer where
  | opened (owner : Owner)
  | added
  | pushed (delivered : Bool)
  /-- So many bindings were removed. -/
  | released (count : Nat)
deriving DecidableEq, Repr

/-- A call on the component of a sheet. -/
inductive Call where
  | receive (sheet : Nat) (property : String) (value : Value)
  | destroy (sheet : Nat)
deriving DecidableEq, Repr

namespace Answer

/-- The owner handed out. -/
def owner? : Answer → Option Owner
  | .opened owner => some owner
  | _ => none

end Answer

namespace Call

/-- The sheet of the component called. -/
def sheet : Call → Nat
  | .receive sheet _ _ => sheet
  | .destroy sheet => sheet

/-- What the call makes of the sheet. -/
def applyTo (s : Sheet) : Call → Sheet
  | .receive _ property value => s.receive property value
  | .destroy _ => s.destroy

/-- The property pushed and its value. -/
def delivery? : Call → Option (String × Value)
  | .receive _ property value => some (property, value)
  | .destroy _ => none

end Call

/-- Serves a request. -/
def serve (r : Registry) : Request → Answer × Registry
  | .newOwner => (.opened r.newOwner.1, r.newOwner.2)
  | .add identifier owner => (.added, r.add identifier owner)
  | .push identifier property value =>
    match r.push? identifier property value with
    | some r' => (.pushed true, r')
    | none => (.pushed false, r)
  | .release owner => (.released (r.countOf owner), r.release owner)

/-- The calls made in serving a request. -/
def calls (r : Registry) : Request → List Call
  | .push identifier property value =>
    (r.find? identifier).toList.map fun m => .receive m.sheet property value
  | .release owner => (r.mounts.filter (·.isHeldBy owner)).map fun m => .destroy m.sheet
  | _ => []

/-- What has come of requests: the registry, the answers and the calls made on components, in order. -/
structure Past where
  registry : Registry := empty
  answers : List Answer := []
  calls : List Call := []
deriving DecidableEq, Repr

/-- The past once another request is served. -/
def Past.next (p : Past) (q : Request) : Past where
  registry := (p.registry.serve q).2
  answers := p.answers ++ [(p.registry.serve q).1]
  calls := p.calls ++ p.registry.calls q

/-- The past of requests made of an empty registry, one after another. -/
def past (h : List Request) : Past :=
  h.foldl Past.next {}

/-- The mounts that requests come to, the first of them with the given number: every one that was added, in
order, live unless its owner is released later on. -/
def ledgerFrom (number : Nat) : List Request → List Mount
  | [] => []
  | .add identifier owner :: rest =>
    ⟨identifier, owner, number, decide (.release owner ∉ rest)⟩ :: ledgerFrom (number + 1) rest
  | _ :: rest => ledgerFrom number rest

/-- The mounts that requests come to. -/
def ledger (h : List Request) : List Mount :=
  ledgerFrom 0 h

/-- The properties that were pushed onto the component of a sheet. -/
def received (sheet : Nat) (calls : List Call) : List (String × Value) :=
  (calls.filter (·.sheet = sheet)).filterMap Call.delivery?

variable {h : List Request} {q : Request}

@[simp] theorem past_concat : past (h ++ [q]) = (past h).next q := by
  simp [past]

/-! ## The mounts -/

theorem ledgerFrom_concat_add {number : Nat} {identifier : String} {owner : Owner} :
    ledgerFrom number (h ++ [.add identifier owner]) =
      ledgerFrom number h ++ [⟨identifier, owner, number + (ledgerFrom number h).length, true⟩] := by
  induction h generalizing number with
  | nil => simp [ledgerFrom]
  | cons q h ih => cases q <;> simp [ledgerFrom, ih, Nat.add_assoc, Nat.add_comm 1]

theorem ledgerFrom_concat_release {number : Nat} {owner : Owner} :
    ledgerFrom number (h ++ [.release owner]) =
      (ledgerFrom number h).map fun m => if m.isHeldBy owner then { m with live := false } else m := by
  induction h generalizing number with
  | nil => rfl
  | cons q h ih =>
    cases q with
    | add identifier holder =>
      simp only [List.cons_append, ledgerFrom, ih, List.map_cons]
      by_cases same : holder = owner
      · by_cases released : Request.release owner ∈ h <;> simp [Mount.isHeldBy, same, released]
      · by_cases released : Request.release holder ∈ h <;> simp [Mount.isHeldBy, same, released]
    | newOwner => exact ih
    | push => exact ih
    | release => exact ih

theorem ledgerFrom_concat {number : Nat} (adds : ∀ identifier owner, q ≠ .add identifier owner)
    (releases : ∀ owner, q ≠ .release owner) : ledgerFrom number (h ++ [q]) = ledgerFrom number h := by
  induction h generalizing number with
  | nil => cases q <;> simp_all [ledgerFrom]
  | cons q' h ih =>
    cases q' <;> simp [ledgerFrom, ih, Ne.symm (releases _)]

@[simp] theorem ledger_concat_newOwner : ledger (h ++ [.newOwner]) = ledger h :=
  ledgerFrom_concat (by simp) (by simp)

@[simp] theorem ledger_concat_push {identifier property : String} {value : Value} :
    ledger (h ++ [.push identifier property value]) = ledger h :=
  ledgerFrom_concat (by simp) (by simp)

/-- A mount comes after all others, with the next number. -/
@[simp] theorem ledger_concat_add {identifier : String} {owner : Owner} :
    ledger (h ++ [.add identifier owner]) = ledger h ++ [⟨identifier, owner, (ledger h).length, true⟩] := by
  rw [ledger, ledgerFrom_concat_add, Nat.zero_add, ← ledger]

/-- A release ends the mounts of its owner. -/
@[simp] theorem ledger_concat_release {owner : Owner} :
    ledger (h ++ [.release owner]) =
      (ledger h).map fun m => if m.isHeldBy owner then { m with live := false } else m :=
  ledgerFrom_concat_release

/-- The mounts are numbered in the order made. -/
theorem sheets_ledgerFrom {number : Nat} :
    (ledgerFrom number h).map (·.sheet) = List.range' number (ledgerFrom number h).length := by
  induction h generalizing number with
  | nil => rfl
  | cons q h ih => cases q <;> simp [ledgerFrom, ih, List.range'_succ]

theorem sheets_ledger : (ledger h).map (·.sheet) = List.range (ledger h).length := by
  rw [ledger, sheets_ledgerFrom, List.range_eq_range']

theorem nodup_sheets_ledger : ((ledger h).map (·.sheet)).Nodup := by
  rw [sheets_ledger]
  exact List.nodup_range

theorem sheet_lt_of_mem_ledger {m : Mount} (mem : m ∈ ledger h) : m.sheet < (ledger h).length := by
  have numbered : m.sheet ∈ (ledger h).map (·.sheet) := List.mem_map_of_mem mem
  rwa [sheets_ledger, List.mem_range] at numbered

/-! ## The calls -/

section

variable {r : Registry}

/-- Only components of live mounts are called. -/
theorem live_of_mem_calls {c : Call} (mem : c ∈ r.calls q) :
    ∃ m ∈ r.mounts, m.live = true ∧ c.sheet = m.sheet := by
  unfold calls at mem
  split at mem
  · obtain ⟨m, found, rfl⟩ := List.mem_map.1 mem
    have found : r.find? _ = some m := Option.mem_toList.1 found
    have binds := List.find?_some found
    simp only [Mount.binds, Bool.and_eq_true] at binds
    exact ⟨m, List.mem_of_find?_eq_some found, binds.1, rfl⟩
  · obtain ⟨m, held, rfl⟩ := List.mem_map.1 mem
    obtain ⟨mem, holds⟩ := List.mem_filter.1 held
    simp only [Mount.isHeldBy, Bool.and_eq_true] at holds
    exact ⟨m, mem, holds.1, rfl⟩
  · cases mem

/-- In serving a request no component is called after it is destroyed. -/
theorem pairwise_calls (distinct : (r.mounts.map (·.sheet)).Nodup) :
    (r.calls q).Pairwise fun earlier later => ∀ sheet, earlier = .destroy sheet → later.sheet ≠ sheet := by
  unfold calls
  split
  · cases r.find? _ <;> simp
  · have apart : r.mounts.Pairwise fun m m' => m.sheet ≠ m'.sheet := List.pairwise_map.1 distinct
    rw [List.pairwise_map]
    refine (apart.sublist List.filter_sublist).imp fun differs sheet same => ?_
    cases same
    exact Ne.symm differs
  · exact .nil

/-- A release calls the components of the owner's mounts. -/
theorem destroy_mem_calls_release {owner : Owner} (distinct : (r.mounts.map (·.sheet)).Nodup) {m : Mount}
    (mem : m ∈ r.mounts) : .destroy m.sheet ∈ r.calls (.release owner) ↔ m.isHeldBy owner = true := by
  rw [calls, List.mem_map]
  constructor
  · rintro ⟨m', held, same⟩
    obtain ⟨mem', held⟩ := List.mem_filter.1 held
    rwa [← List.inj_on_of_nodup_map distinct mem' mem (Call.destroy.inj same)]
  · intro held
    exact ⟨m, List.mem_filter.2 ⟨mem, held⟩, rfl⟩

/-- The sheets after a request are what the calls make of them, a new one among them for a mount. -/
theorem sheets_serve :
    (r.serve q).2.sheets =
      (r.calls q).foldl (fun sheets c => sheets.modify c.sheet c.applyTo)
        (match q with
          | .add .. => r.sheets ++ [{}]
          | _ => r.sheets) := by
  cases q with
  | newOwner => rfl
  | add => rfl
  | push identifier property value =>
    simp only [serve, push?, calls]
    cases r.find? identifier <;> rfl
  | release owner =>
    simp only [serve, release, calls, List.foldl_map]
    rfl

theorem getElem?_foldl_calls {cs : List Call} {sheets : List Sheet} {k : Nat} :
    (cs.foldl (fun sheets c => sheets.modify c.sheet c.applyTo) sheets)[k]? =
      sheets[k]?.map fun s => (cs.filter (·.sheet = k)).foldl Call.applyTo s := by
  induction cs generalizing sheets with
  | nil => simp
  | cons c cs ih =>
    rw [List.foldl_cons, ih, List.getElem?_modify]
    by_cases here : c.sheet = k
    · simp [here, Function.comp_def]
    · simp [here]

/-- A push is delivered to the earliest live mount of the identifier, and to no other. -/
theorem serve_push {identifier property : String} {value : Value} :
    match r.find? identifier with
    | some m =>
      r.serve (.push identifier property value) =
        (.pushed true, { r with sheets := r.sheets.modify m.sheet (·.receive property value) }) ∧
      r.calls (.push identifier property value) = [.receive m.sheet property value]
    | none =>
      r.serve (.push identifier property value) = (.pushed false, r) ∧
      r.calls (.push identifier property value) = [] := by
  simp only [serve, push?, calls]
  cases r.find? identifier <;> exact ⟨rfl, rfl⟩

/-- A release ends as many bindings as the owner had. -/
theorem countOf_add_length_bindings_release {owner : Owner} :
    r.countOf owner + (r.release owner).bindings.length = r.bindings.length := by
  obtain ⟨mounts, sheets, owners⟩ := r
  simp only [countOf, release, bindings]
  induction mounts with
  | nil => rfl
  | cons m ms ih =>
    by_cases held : m.isHeldBy owner = true
    · have live : m.live = true := (Bool.and_eq_true_iff.1 held).1
      simp [held, live, ← ih]
      omega
    · by_cases live : m.live = true <;> simp [held, live, ← ih]
      omega

theorem length_foldl_destroy {ms : List Mount} {sheets : List Sheet} :
    (ms.foldl (fun sheets m => sheets.modify m.sheet Sheet.destroy) sheets).length = sheets.length := by
  induction ms generalizing sheets with
  | nil => rfl
  | cons m ms ih => rw [List.foldl_cons, ih, List.length_modify]

/-- The calls on a component destroy it exactly if one of them does. -/
theorem any_delivery?_eq_none {cs : List Call} {k : Nat} :
    (cs.filter (·.sheet = k)).any (·.delivery? = none) = true ↔ .destroy k ∈ cs := by
  simp only [List.any_eq_true, List.mem_filter, decide_eq_true_eq]
  constructor
  · rintro ⟨c, ⟨mem, here⟩, destroys⟩
    cases c with
    | receive => cases destroys
    | destroy sheet => exact (here : sheet = k) ▸ mem
  · intro mem
    exact ⟨.destroy k, ⟨mem, rfl⟩, rfl⟩

/-- What calls make of a sheet: the properties pushed are put in one after another, each counting as a push,
and it is destroyed by any one call that destroys it. -/
theorem foldl_applyTo {cs : List Call} {s : Sheet} :
    cs.foldl Call.applyTo s =
      { properties := (cs.filterMap Call.delivery?).foldl (fun ps e => ps.insert e.1 e.2) s.properties
        pushes := s.pushes + (cs.filterMap Call.delivery?).length
        destroyed := s.destroyed || cs.any (·.delivery? = none) } := by
  induction cs generalizing s with
  | nil => simp
  | cons c cs ih =>
    cases c with
    | receive sheet property value =>
      simp [ih, Call.applyTo, Call.delivery?, Sheet.receive, Nat.add_assoc, Nat.add_comm 1]
    | destroy sheet => simp [ih, List.filterMap_cons, Call.applyTo, Call.delivery?, Sheet.destroy]

end

/-! ## What requests come to -/

/-- The registry holds the mounts that the requests come to, and a sheet for each. -/
theorem mounts_past (h : List Request) :
    (past h).registry.mounts = ledger h ∧ (past h).registry.sheets.length = (ledger h).length := by
  induction h using List.reverseRecOn with
  | nil => exact ⟨rfl, rfl⟩
  | append_singleton h q ih =>
    obtain ⟨mounts, size⟩ := ih
    rw [past_concat, Past.next]
    cases q with
    | newOwner => simpa [serve, newOwner] using ⟨mounts, size⟩
    | add identifier owner => simp [serve, add, bind, mounts, size]
    | push identifier property value =>
      simp only [serve, push?, ledger_concat_push]
      cases (past h).registry.find? identifier with
      | none => exact ⟨mounts, size⟩
      | some m => exact ⟨mounts, by simpa using size⟩
    | release owner =>
      rw [ledger_concat_release, List.length_map, ← size, ← mounts]
      exact ⟨rfl, length_foldl_destroy⟩

theorem nodup_sheets_past : ((past h).registry.mounts.map (·.sheet)).Nodup := by
  rw [(mounts_past h).1]
  exact nodup_sheets_ledger

/-- Only mounted components are called. -/
theorem sheet_lt_of_mem_calls {c : Call} (mem : c ∈ (past h).calls) : c.sheet < (ledger h).length := by
  induction h using List.reverseRecOn with
  | nil => cases mem
  | append_singleton h q ih =>
    have grows : (ledger h).length ≤ (ledger (h ++ [q])).length := by
      cases q <;> simp
    refine Nat.lt_of_lt_of_le ?_ grows
    rw [past_concat, Past.next, List.mem_append] at mem
    rcases mem with before | next
    · exact ih before
    · obtain ⟨m, mounted, -, same⟩ := live_of_mem_calls next
      rw [(mounts_past h).1] at mounted
      rw [same]
      exact sheet_lt_of_mem_ledger mounted

/-- A component is called to be destroyed exactly if its owner has been released since it was mounted. -/
theorem destroy_mem_calls {m : Mount} (mem : m ∈ ledger h) :
    .destroy m.sheet ∈ (past h).calls ↔ m.live = false := by
  induction h using List.reverseRecOn generalizing m with
  | nil => cases mem
  | append_singleton h q ih =>
    rw [past_concat, Past.next, List.mem_append]
    cases q with
    | newOwner => simpa [calls] using ih (by simpa using mem)
    | push => simpa [calls] using ih (by simpa using mem)
    | add identifier owner =>
      rw [ledger_concat_add, List.mem_append, List.mem_singleton] at mem
      rcases mem with mem | rfl
      · simpa [calls] using ih mem
      · have fresh : .destroy (ledger h).length ∉ (past h).calls :=
          fun before => Nat.lt_irrefl _ (sheet_lt_of_mem_calls before)
        simp [calls, fresh]
    | release owner =>
      rw [ledger_concat_release, List.mem_map] at mem
      obtain ⟨m', mem', rfl⟩ := mem
      have mounted : m' ∈ (past h).registry.mounts := (mounts_past h).1 ▸ mem'
      have next : .destroy m'.sheet ∈ (past h).registry.calls (.release owner) ↔ m'.isHeldBy owner = true :=
        destroy_mem_calls_release nodup_sheets_past mounted
      by_cases held : m'.isHeldBy owner = true
      · simp [held, next]
      · simp [held, next, ih mem']

/-- No component is called after it is destroyed. -/
theorem pairwise_calls_past :
    (past h).calls.Pairwise fun earlier later => ∀ sheet, earlier = .destroy sheet → later.sheet ≠ sheet := by
  induction h using List.reverseRecOn with
  | nil => exact .nil
  | append_singleton h q ih =>
    rw [past_concat, Past.next]
    refine List.pairwise_append.2 ⟨ih, pairwise_calls nodup_sheets_past, ?_⟩
    rintro earlier before later next sheet rfl same
    obtain ⟨m, mounted, live, called⟩ := live_of_mem_calls next
    rw [(mounts_past h).1] at mounted
    rw [← same, called, destroy_mem_calls mounted, live] at before
    cases before

/-- The sheet of a mount is what the calls on its component make of an empty one. -/
theorem sheet_past {k : Nat} (mounted : k < (ledger h).length) :
    (past h).registry.sheets[k]? = some (((past h).calls.filter (·.sheet = k)).foldl Call.applyTo {}) := by
  induction h using List.reverseRecOn with
  | nil => cases mounted
  | append_singleton h q ih =>
    rw [past_concat, Past.next]
    simp only [sheets_serve, getElem?_foldl_calls, List.filter_append, List.foldl_append]
    by_cases before : k < (ledger h).length
    · have kept : (past h).registry.sheets[k]? = _ := ih before
      cases q with
      | add =>
        rw [List.getElem?_append_left ((mounts_past h).2 ▸ before), kept]
        rfl
      | newOwner => rw [kept]; rfl
      | push => rw [kept]; rfl
      | release => rw [kept]; rfl
    · cases q with
      | add =>
        have newest : k = (ledger h).length :=
          Nat.le_antisymm (by simpa [Nat.lt_succ_iff] using mounted) (Nat.le_of_not_lt before)
        have uncalled : (past h).calls.filter (·.sheet = k) = [] := by
          rw [List.filter_eq_nil_iff]
          intro c mem
          simpa using Nat.ne_of_lt (newest ▸ sheet_lt_of_mem_calls mem)
        rw [uncalled, newest, ← (mounts_past h).2, List.getElem?_concat_length]
        rfl
      | newOwner => exact absurd (by simpa using mounted) before
      | push => exact absurd (by simpa using mounted) before
      | release => exact absurd (by simpa using mounted) before

/-- The owners handed out are numbered in order. -/
theorem owners_past :
    (past h).answers.filterMap Answer.owner? =
      (List.range (past h).registry.owners).map fun number => ⟨number + 1⟩ := by
  induction h using List.reverseRecOn with
  | nil => rfl
  | append_singleton h q ih =>
    rw [past_concat, Past.next, List.filterMap_append, ih]
    cases q with
    | newOwner => simp [serve, newOwner, Answer.owner?, List.range_succ]
    | add => simp [serve, add, bind, Answer.owner?]
    | push identifier property value =>
      simp only [serve, push?]
      cases (past h).registry.find? identifier <;> simp [Answer.owner?]
    | release => simp [serve, release, Answer.owner?]

/-- A component is called to be destroyed once at most. -/
theorem count_destroy_le_one {sheet : Nat} : (past h).calls.count (.destroy sheet) ≤ 1 := by
  by_contra often
  have twice : [.destroy sheet, .destroy sheet].Sublist (past h).calls :=
    List.replicate_sublist_iff.2 (Nat.lt_of_not_le often)
  have apart := pairwise_calls_past.sublist twice
  exact List.rel_of_pairwise_cons apart List.mem_cons_self sheet rfl rfl

/-- **The life of a mounted component**, whatever has been requested so far. No owner is handed out twice.
Bound is what was added and not released by its owner since, in the order added. A sheet is destroyed exactly
if its owner was released after the component was added; that is done once, nothing is pushed onto the
component afterwards, and the sheet counts what was pushed onto it and holds the last value of each property.
A release answers how many bindings it ends, and a push whether the identifier is bound, reaching the earliest
live mount alone. -/
theorem life_cycle (h : List Request) :
    ((past h).answers.filterMap Answer.owner?).Nodup ∧
    (past h).registry.bindings = (ledger h).filter (·.live) ∧
    (past h).registry.sheets.length = (ledger h).length ∧
    (∀ m ∈ ledger h, ∃ s, (past h).registry.sheets[m.sheet]? = some s ∧
      (s.destroyed = true ↔ m.live = false) ∧
      s.pushes = (received m.sheet (past h).calls).length ∧
      ∀ property, s.get? property =
        ((received m.sheet (past h).calls).reverse.find? (·.1 == property)).map (·.2)) ∧
    (∀ sheet, (past h).calls.count (.destroy sheet) ≤ 1) ∧
    ((past h).calls.Pairwise fun earlier later => ∀ sheet, earlier = .destroy sheet → later.sheet ≠ sheet) ∧
    (∀ owner, ∃ count r, (past h).registry.serve (.release owner) = (.released count, r) ∧
      count + r.bindings.length = (past h).registry.bindings.length) ∧
    ∀ identifier property value,
      match (ledger h).find? (·.binds identifier) with
      | some m =>
        (past h).registry.serve (.push identifier property value) =
          (.pushed true, { (past h).registry with
            sheets := (past h).registry.sheets.modify m.sheet (·.receive property value) }) ∧
        (past h).registry.calls (.push identifier property value) = [.receive m.sheet property value]
      | none =>
        (past h).registry.serve (.push identifier property value) = (.pushed false, (past h).registry) ∧
        (past h).registry.calls (.push identifier property value) = [] := by
  refine ⟨?_, ?_, (mounts_past h).2, ?_, fun _ => count_destroy_le_one, pairwise_calls_past, ?_, ?_⟩
  · rw [owners_past]
    exact List.nodup_range.map fun a b same => by simpa using same
  · rw [bindings, (mounts_past h).1]
  · intro m mem
    refine ⟨_, sheet_past (sheet_lt_of_mem_ledger mem), ?_, ?_, ?_⟩
    · rw [foldl_applyTo, ← destroy_mem_calls mem, Bool.false_or, any_delivery?_eq_none]
    · rw [foldl_applyTo]
      exact Nat.zero_add _
    · intro property
      rw [foldl_applyTo]
      exact NameMap.get?_ofList
  · intro owner
    exact ⟨_, _, rfl, countOf_add_length_bindings_release⟩
  · intro identifier property value
    rw [← (mounts_past h).1]
    exact serve_push

/-- Once its first mount is released, an identifier is bound to the second. -/
example :
    (past [.add "panel" ⟨1⟩, .add "panel" ⟨2⟩, .push "panel" "text" .null, .release ⟨1⟩,
        .push "panel" "text" .null, .release ⟨1⟩]).calls =
      [.receive 0 "text" .null, .destroy 0, .receive 1 "text" .null] := by
  decide

end Registry

end Formulary
