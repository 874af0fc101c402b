import Mathlib.Data.List.Induction
import Formulary.Form.Journal

/-!
# Reading a journal

A journal is flat: of the nesting of the writes it keeps the depths alone. `chain` recovers from
them, at any point of a journal, the writes that led there: for every depth up to that of the last
write, the field of the latest write of that depth. `Each` says of every event something about it
and the events before it.
-/

namespace Formulary

namespace JournalEntry

/-- The depth of a write. -/
def depth? : JournalEntry → Option Nat
  | .write _ _ depth => some depth
  | _ => none

/-- The event is a write of the field. -/
def writes (e : JournalEntry) (name : String) : Bool :=
  match e with
  | .write field _ _ => field == name
  | _ => false

end JournalEntry

namespace Journal

variable {es : List JournalEntry} {e : JournalEntry} {Q : List JournalEntry → JournalEntry → Prop}

/-- Every event stands in `Q` to the events before it. -/
def Each (Q : List JournalEntry → JournalEntry → Prop) (es : List JournalEntry) : Prop :=
  ∀ before e after, es = before ++ e :: after → Q before e

/-- The depth of the last write. -/
def lastDepth (es : List JournalEntry) : Option Nat :=
  es.reverse.findSome? JournalEntry.depth?

/-- The field of the latest write of a depth. -/
def latest (es : List JournalEntry) (depth : Nat) : Option String :=
  es.reverse.findSome? fun
    | .write field _ d => if d = depth then some field else none
    | _ => none

/-- For every depth up to that of the last write, the field of the latest write of that depth. -/
def chain (es : List JournalEntry) : List String :=
  match lastDepth es with
  | none => []
  | some last => (List.range (last + 1)).filterMap (latest es)

@[simp] theorem toList_record {j : Journal} : (j.record e).toList = j.toList ++ [e] := by
  simp [toList, record]

theorem Each.nil : Each Q [] := by
  intro before e after split
  simp at split

theorem Each.concat (h : Each Q es) (last : Q es e) : Each Q (es ++ [e]) := by
  intro before e' after split
  rcases List.eq_nil_or_concat after with rfl | ⟨after, x, rfl⟩
  · obtain ⟨rfl, same⟩ := List.append_inj' split rfl
    cases same
    exact last
  · have split' : es ++ [e] = (before ++ e' :: after) ++ [x] := by
      rw [split]
      simp
    exact h before e' after (List.append_inj' split' rfl).1

theorem lastDepth_concat_write {field : String} {v : Value} {d : Nat} :
    lastDepth (es ++ [.write field v d]) = some d := by
  simp [lastDepth, List.findSome?_cons, JournalEntry.depth?]

theorem lastDepth_concat (h : e.depth? = none) : lastDepth (es ++ [e]) = lastDepth es := by
  simp [lastDepth, h]

theorem latest_concat_write {field : String} {v : Value} {d depth : Nat} :
    latest (es ++ [.write field v d]) depth = if d = depth then some field else latest es depth := by
  by_cases h : d = depth <;> simp [latest, h]

theorem latest_concat (h : e.depth? = none) {depth : Nat} : latest (es ++ [e]) depth = latest es depth := by
  cases e <;> simp_all [latest, JournalEntry.depth?]

theorem filterMap_range {names : List String} {f : Nat → Option String} {n : Nat} (short : names.length = n)
    (h : ∀ d < n, f d = names[d]?) : (List.range n).filterMap f = names := by
  induction names using List.reverseRecOn generalizing n with
  | nil => subst short; rfl
  | append_singleton names name ih =>
    subst short
    have below : (List.range names.length).filterMap f = names := by
      refine ih rfl fun d less => ?_
      rw [h d (by simp; omega), List.getElem?_append_left less]
    have last : f names.length = some name := by
      rw [h names.length (by simp), List.getElem?_concat_length]
    simp [List.range_succ, below, last]

/-- Where the latest writes of the depths are known, they begin the chain. -/
theorem prefix_chain {names : List String} {last : Nat} (ofLast : lastDepth es = some last)
    (short : names.length ≤ last + 1) (h : ∀ d < names.length, latest es d = names[d]?) :
    names <+: chain es := by
  obtain ⟨more, split⟩ := Nat.exists_eq_add_of_le short
  rw [chain, ofLast]
  simp only [split, List.range_add, List.filterMap_append, filterMap_range rfl h]
  exact List.prefix_append _ _

/-- Where they are known up to the last depth, they are the chain. -/
theorem chain_eq {names : List String} {last : Nat} (ofLast : lastDepth es = some last)
    (whole : names.length = last + 1) (h : ∀ d < names.length, latest es d = names[d]?) :
    chain es = names := by
  simp only [chain, ofLast, ← whole, filterMap_range rfl h]

example : chain [.write "a" .null 0, .write "b" .null 1, .write "c" .null 2, .write "d" .null 1] =
    ["a", "d"] := by
  decide

end Journal

end Formulary
