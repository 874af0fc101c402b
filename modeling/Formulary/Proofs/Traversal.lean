import Mathlib.Data.List.Forall2

/-!
# Going through a list

A list is gone through until an entry stops it. `First` says which entry that is: the first one with a
property, and how many there are before it. So a search comes upon the first entry that it looks for
(`First.find?_eq`), and a traversal that can fail either gets an answer for every entry
(`mapM_eq_ok_iff`) or ends in the error of the first one that has none (`mapM_eq_error_iff`).
-/

namespace Formulary

variable {α β ε : Type}

/-- The first entry of a list with a property, and how many entries are before it. -/
inductive First (P : α → Prop) : List α → Nat → α → Prop where
  | here {x xs} (holds : P x) : First P (x :: xs) 0 x
  | later {x xs n y} (fails : ¬ P x) (first : First P xs n y) : First P (x :: xs) (n + 1) y

/-- There is no answer for the entry. -/
def Unanswered (f : α → Except ε β) (x : α) : Prop :=
  ∀ y, f x ≠ .ok y

variable {P Q : α → Prop} {R : Nat → α → Prop} {x y : α} {xs : List α} {n m : Nat}

namespace First

theorem holds (h : First P xs n x) : P x := by
  induction h with
  | here holds => exact holds
  | later _ _ ih => exact ih

theorem mem (h : First P xs n x) : x ∈ xs := by
  induction h with
  | here => exact List.mem_cons_self
  | later _ _ ih => exact List.mem_cons_of_mem _ ih

theorem congr (h : First P xs n x) (same : ∀ y ∈ xs, P y ↔ Q y) : First Q xs n x := by
  induction h with
  | here holds => exact .here ((same _ List.mem_cons_self).1 holds)
  | later fails _ ih =>
    obtain ⟨ofHead, ofTail⟩ := List.forall_mem_cons.1 same
    exact .later (fun holds => fails (ofHead.2 holds)) (ih ofTail)

end First

theorem not_first_nil : ¬ ∃ n y, First P [] n y ∧ R n y :=
  fun ⟨_, _, first, _⟩ => nomatch first

/-- A head with the property is the first entry to have it. -/
theorem first_cons_of_holds (holds : P x) : (∃ n y, First P (x :: xs) n y ∧ R n y) ↔ R 0 x := by
  constructor
  · rintro ⟨n, y, first, related⟩
    cases first with
    | here => exact related
    | later fails => exact (fails holds).elim
  · intro related
    exact ⟨0, x, .here holds, related⟩

/-- Behind a head without it, the first entry to have it is that of the tail. -/
theorem first_cons_of_fails (fails : ¬ P x) :
    (∃ n y, First P (x :: xs) n y ∧ R n y) ↔ ∃ n y, First P xs n y ∧ R (n + 1) y := by
  constructor
  · rintro ⟨n, y, first, related⟩
    cases first with
    | here holds => exact (fails holds).elim
    | later _ first => exact ⟨_, y, first, related⟩
  · rintro ⟨n, y, first, related⟩
    exact ⟨n + 1, y, .later fails first, related⟩

theorem exists_first (found : ∃ x ∈ xs, P x) : ∃ n x, First P xs n x := by
  induction xs with
  | nil => simp at found
  | cons x xs ih =>
    by_cases holds : P x
    · exact ⟨0, x, .here holds⟩
    · obtain ⟨y, mem, later⟩ := found
      rcases List.mem_cons.1 mem with rfl | mem
      · exact (holds later).elim
      · obtain ⟨n, y, first⟩ := ih ⟨y, mem, later⟩
        exact ⟨n + 1, y, .later holds first⟩

/-- **A search comes upon the first entry that it looks for.** -/
theorem First.find?_eq {p : α → Bool} (first : First (fun y => p y = true) xs n x) : xs.find? p = some x := by
  induction first with
  | here holds => exact List.find?_cons_of_pos holds
  | later fails _ ih => rw [List.find?_cons_of_neg fails, ih]

/-- There is something for every entry, in order, if there is for each. -/
theorem exists_forall₂_iff {S : α → β → Prop} :
    (∃ ys, List.Forall₂ S xs ys) ↔ ∀ x ∈ xs, ∃ y, S x y := by
  induction xs with
  | nil => exact ⟨fun _ _ => nofun, fun _ => ⟨[], .nil⟩⟩
  | cons x xs ih =>
    rw [List.forall_mem_cons, ← ih]
    constructor
    · rintro ⟨_, related⟩
      obtain ⟨y, ys, first, others, rfl⟩ := List.forall₂_cons_left_iff.1 related
      exact ⟨⟨y, first⟩, ⟨ys, others⟩⟩
    · rintro ⟨⟨y, first⟩, ⟨ys, others⟩⟩
      exact ⟨y :: ys, .cons first others⟩

variable {f : α → Except ε β} {ys : List β} {e : ε}

/-- **A traversal succeeds if every entry has an answer**, and its answers are theirs. -/
theorem mapM_eq_ok_iff : xs.mapM f = .ok ys ↔ List.Forall₂ (fun x y => f x = .ok y) xs ys := by
  induction xs generalizing ys with
  | nil => cases ys <;> simp [pure, Except.pure]
  | cons x xs ih =>
    rw [List.mapM_cons]
    cases answer : f x with
    | error e => cases ys <;> simp [answer, bind, Except.bind]
    | ok y =>
      cases answers : xs.mapM f <;> cases ys <;>
        simp [answer, answers, ← ih, bind, Except.bind, pure, Except.pure]

/-- **It fails with the first entry that has none**, and the error is that entry's. -/
theorem mapM_eq_error_iff :
    xs.mapM f = .error e ↔ ∃ n x, First (Unanswered f) xs n x ∧ f x = .error e := by
  induction xs with
  | nil => exact ⟨nofun, fun first => (not_first_nil first).elim⟩
  | cons x xs ih =>
    rw [List.mapM_cons]
    cases answer : f x with
    | error e' =>
      have unanswered : Unanswered f x := by simp [Unanswered, answer]
      rw [first_cons_of_holds unanswered, answer]
      simp [bind, Except.bind]
    | ok y =>
      have answered : ¬ Unanswered f x := fun unanswered => unanswered y answer
      have later : (xs.mapM f).bind (fun ys => pure (y :: ys)) = .error e ↔ xs.mapM f = .error e := by
        cases xs.mapM f <;> simp [Except.bind, pure, Except.pure]
      rw [first_cons_of_fails answered]
      exact later.trans ih

end Formulary
