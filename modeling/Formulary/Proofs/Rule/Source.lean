import Formulary.Proofs.Text.Cutting
import Formulary.Rule.Program

/-!
# The source of a program

A source compiles to the program whose tokens are its words (`Program.compile_eq_ok_iff`). So a program whose
rows are legible compiles from its own notation (`Program.compile_text`): its segments are its rows, and their
words are the tokens.
-/

namespace Formulary

/-- There are no blanks and no semicolons. -/
def Text.Plain (s : String) : Prop :=
  ∀ c ∈ s.toList, Text.isBlank c = false ∧ c ≠ ';'

instance {s : String} : Decidable (Text.Plain s) :=
  List.decidableBAll (fun c => Text.isBlank c = false ∧ c ≠ ';') s.toList

/-! ## Compiling -/

namespace Row

variable {r : Row}

/-- A row is written in a segment if its tokens are the words of the segment. -/
theorem ofSegment?_eq_some_iff {segment : List Char} :
    ofSegment? segment = some r ↔ r.tokens.map String.toList = Text.words ' ' (Text.trim segment) := by
  have texts : ∀ ws : List (List Char), r.tokens.map String.toList = ws ↔ ws.map String.ofList = r.tokens := by
    intro ws
    constructor
    · rintro rfl
      simp
    · intro same
      simp [← same]
  rw [texts, ofSegment?]
  obtain ⟨mnemonic, operands⟩ := r
  cases (Text.words ' ' (Text.trim segment)).map String.ofList with
  | nil => simp [tokens]
  | cons first others => simp [tokens]

/-- The row can be read off its notation: no token is empty or holds a space or a semicolon, and there is no
blank at the ends of the row. -/
structure Legible (r : Row) : Prop where
  tokens : ∀ t ∈ r.tokens, t ≠ "" ∧ ' ' ∉ t.toList ∧ ';' ∉ t.toList
  tight : Text.Tight r.text.toList

/-- A row whose tokens hold no blanks is legible. -/
theorem legible_of_plain (plain : ∀ t ∈ r.tokens, t ≠ "" ∧ Text.Plain t) : r.Legible where
  tokens t mem := by
    obtain ⟨nonempty, chars⟩ := plain t mem
    exact ⟨nonempty, fun space => absurd (chars _ space).1 (by decide), fun ends => (chars _ ends).2 rfl⟩
  tight := by
    apply Text.Tight.joinWith fun t mem => (plain t mem).1
    apply Text.Tight.of_forall
    intro c among
    obtain ⟨chars, written, holds⟩ := List.mem_flatten.1 among
    obtain ⟨t, mem, rfl⟩ := List.mem_map.1 written
    exact ((plain t mem).2 c holds).1

/-- The words of its notation are its tokens. -/
theorem Legible.words_text (h : r.Legible) :
    Text.words ' ' (Text.trim r.text.toList) = r.tokens.map String.toList := by
  rw [h.tight.trim_eq]
  exact Text.words_joinWith rfl (List.cons_ne_nil _ _) fun t mem => ⟨(h.tokens t mem).1, (h.tokens t mem).2.1⟩

/-- Its notation holds no semicolon. -/
theorem Legible.not_mem_text (h : r.Legible) : ';' ∉ r.text.toList := by
  intro mem
  rcases Text.mem_joinWith mem with between | ⟨t, among, holds⟩
  · exact absurd between (by decide)
  · exact (h.tokens t among).2.2 holds

end Row

namespace Program

theorem ofSegments_eq_ok_iff : ∀ segments index rows, ofSegments index segments = .ok rows ↔
    (rows.map fun r => r.tokens.map String.toList) =
      segments.map fun segment => Text.words ' ' (Text.trim segment) := by
  intro segments
  induction segments with
  | nil =>
    intro index rows
    cases rows <;> simp [ofSegments]
  | cons segment segments ih =>
    intro index rows
    rw [ofSegments, List.map_cons]
    cases rows with
    | nil => cases Row.ofSegment? segment <;> cases ofSegments (index + 1) segments <;> simp [Except.map]
    | cons r rows =>
      rw [List.map_cons, List.cons.injEq, ← Row.ofSegment?_eq_some_iff, ← ih (index + 1) rows]
      cases Row.ofSegment? segment <;> cases ofSegments (index + 1) segments <;> simp [Except.map]

/-- **A source compiles to a program if the words of its segments are the tokens of the rows**, in order. -/
theorem compile_eq_ok_iff {source : String} {p : Program} : compile source = .ok p ↔
    (p.rows.map fun r => r.tokens.map String.toList) =
      (Text.segments ';' source.toList).map fun segment => Text.words ' ' (Text.trim segment) := by
  obtain ⟨rows⟩ := p
  rw [← ofSegments_eq_ok_iff _ 0, compile]
  cases ofSegments 0 (Text.segments ';' source.toList) <;> simp [Except.map]

/-- **A program of legible rows compiles from its notation.** -/
theorem compile_text {p : Program} (nonempty : p.rows ≠ []) (legible : ∀ r ∈ p.rows, r.Legible) :
    compile p.text = .ok p := by
  have cut : Text.segments ';' p.text.toList = p.rows.map fun r => r.text.toList := by
    rw [text, Text.segments_joinWith rfl (by simpa using nonempty), List.map_map]
    · rfl
    · intro t written
      obtain ⟨r, mem, rfl⟩ := List.mem_map.1 written
      exact (legible r mem).not_mem_text
  rw [compile_eq_ok_iff, cut, List.map_map]
  exact List.map_congr_left fun r mem => (legible r mem).words_text.symm

end Program

end Formulary
