import Formulary.Definition.LengthRule
import Mathlib.Data.List.Basic

/-!
# Bracket groups

Which bracket groups a text has, said without a scanner. A group is an open bracket, a content of one character
or more, and the next closing bracket (`Bracket`); so a content may hold open brackets. The groups of a text are
found from left to right: one is taken where it begins, and a character at which none begins is passed over
(`Brackets`). Every text has just one list of contents, the one that scanning it gives (`brackets_iff`): a
bracket that is never closed, or closed at once, hides no group behind it.
-/

namespace Formulary.LengthRule

/-- The text begins with a bracket group of this content, and goes on with the rest. -/
structure Bracket (cs content rest : List Char) : Prop where
  text : cs = '[' :: content ++ ']' :: rest
  nonempty : content ≠ []
  closes : ']' ∉ content

/-- The contents of the bracket groups of a text from left to right, no two of which overlap. -/
inductive Brackets : List Char → List (List Char) → Prop where
  | nil : Brackets [] []
  | skip {c cs contents} (no : ∀ content rest, ¬ Bracket (c :: cs) content rest) (later : Brackets cs contents) :
      Brackets (c :: cs) contents
  | bracket {cs content rest contents} (here : Bracket cs content rest) (later : Brackets rest contents) :
      Brackets cs (content :: contents)

variable {c : Char} {cs content rest held : List Char} {contents : List (List Char)}

/-- Nothing is found in a text in which no bracket is closed. -/
theorem scan_of_not_mem (unclosed : ']' ∉ cs) (inside : Option (List Char)) : scan inside cs = [] := by
  induction cs generalizing inside with
  | nil => cases inside <;> rfl
  | cons c cs ih =>
    obtain ⟨other, unclosed⟩ := not_or.1 (mt List.mem_cons.2 unclosed)
    cases inside with
    | none => exact ih unclosed _
    | some held =>
      rw [scan, if_neg (Ne.symm other)]
      exact ih unclosed _

/-- Inside a group the characters up to the next closing bracket are its content. -/
theorem scan_inside (closes : ']' ∉ content) (nonempty : held.reverse ++ content ≠ []) :
    scan (some held) (content ++ ']' :: rest) = (held.reverse ++ content) :: scan none rest := by
  induction content generalizing held with
  | nil =>
    rw [List.append_nil, ne_eq, List.reverse_eq_nil_iff] at nonempty
    rw [List.nil_append, List.append_nil, scan, if_pos rfl, if_neg (by simpa using nonempty)]
  | cons c content ih =>
    obtain ⟨other, closes⟩ := not_or.1 (mt List.mem_cons.2 closes)
    have longer : (c :: held).reverse ++ content = held.reverse ++ c :: content := by simp
    rw [List.cons_append, scan, if_neg (Ne.symm other), ih closes (by simp), longer]

theorem scan_bracket (here : Bracket cs content rest) : scan none cs = content :: scan none rest := by
  obtain ⟨rfl, nonempty, closes⟩ := here
  exact @scan_inside content rest [] closes nonempty

/-- An open bracket that begins no group is closed at once, if it is closed at all. -/
theorem exists_eq_cons (no : ∀ content rest, ¬ Bracket ('[' :: cs) content rest) (closed : ']' ∈ cs) :
    ∃ rest, cs = ']' :: rest := by
  obtain ⟨content, rest, rfl, closes⟩ := List.eq_append_cons_of_mem closed
  have empty : content = [] := by
    by_contra nonempty
    exact no content rest ⟨rfl, nonempty, closes⟩
  exact ⟨rest, by rw [empty, List.nil_append]⟩

/-- A character at which no group begins is passed over. -/
theorem scan_skip (no : ∀ content rest, ¬ Bracket (c :: cs) content rest) :
    scan none (c :: cs) = scan none cs := by
  by_cases opens : c = '['
  · subst opens
    by_cases closed : ']' ∈ cs
    · obtain ⟨rest, rfl⟩ := exists_eq_cons no closed
      -- Past the open bracket the scanner is where it would be without it.
      rfl
    · rw [scan_of_not_mem closed, scan, scan_of_not_mem closed]
  · rw [scan, if_neg opens]

/-- What scanning gives are the contents of the groups. -/
theorem brackets_scan (cs : List Char) : Brackets cs (scan none cs) := by
  by_cases begins : ∃ content rest, Bracket cs content rest
  · obtain ⟨content, rest, here⟩ := begins
    have shorter : rest.length < cs.length := by
      simp [here.text]
      omega
    rw [scan_bracket here]
    exact .bracket here (brackets_scan rest)
  · cases cs with
    | nil => exact .nil
    | cons c cs =>
      have no : ∀ content rest, ¬ Bracket (c :: cs) content rest := fun content rest here =>
        begins ⟨content, rest, here⟩
      rw [scan_skip no]
      exact .skip no (brackets_scan cs)
-- Behind a group the text is shorter by all of it, not by one character.
termination_by cs.length

/-- **A text has just one list of contents**, the one that scanning it gives. -/
theorem brackets_iff : Brackets cs contents ↔ scan none cs = contents := by
  constructor
  · intro read
    induction read with
    | nil => rfl
    | skip no _ ih => rw [scan_skip no, ih]
    | bracket here _ ih => rw [scan_bracket here, ih]
  · rintro rfl
    exact brackets_scan cs

/-- A text without open brackets is passed over. -/
theorem scan_append_of_not_mem (plain : '[' ∉ cs) : scan none (cs ++ rest) = scan none rest := by
  induction cs with
  | nil => rfl
  | cons c cs ih =>
    obtain ⟨other, plain⟩ := not_or.1 (mt List.mem_cons.2 plain)
    rw [List.cons_append, scan, if_neg (Ne.symm other), ih plain]

end Formulary.LengthRule
