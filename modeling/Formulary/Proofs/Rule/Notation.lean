import Formulary.Proofs.Rule.Source

/-!
# The notation of what compiles

Rows are trimmed of all blanks but cut at spaces only, so a token may hold tabs, line breaks and other blanks,
or be nothing else. It cannot stand at an end of its row with one of them: the words of a text one behind the
other are the text without its spaces (`Text.flatten_words`), and taking the spaces out of a text that neither
begins nor ends with a blank leaves its ends as they are (`Text.Tight.filter`). So the rows of what compiles
are legible, these and no others (`Program.exists_compile_iff`), and a program that compiles does so again from
the notation it is written in.
-/

namespace Formulary

/-! ## Rows and programs as read -/

/-- **A row whose tokens are the words of a trimmed segment is legible**, if no semicolon is in the segment. -/
theorem Row.legible_of_words {r : Row} {segment : List Char}
    (words : r.tokens.map String.toList = Text.words ' ' (Text.trim segment)) (apart : ';' ∉ segment) :
    r.Legible := by
  have pieces : ∀ t ∈ r.tokens, t.toList ≠ [] ∧ t.toList ∈ Text.segments ' ' (Text.trim segment) := by
    intro t mem
    have word : t.toList ∈ Text.words ' ' (Text.trim segment) := words ▸ List.mem_map_of_mem mem
    obtain ⟨cut, nonempty⟩ := List.mem_filter.1 word
    exact ⟨by simpa using nonempty, cut⟩
  have nonempty : ∀ t ∈ r.tokens, t ≠ "" := fun t mem => by simpa using (pieces t mem).1
  constructor
  · intro t mem
    have chars := fun c => Text.of_mem_segments (c := c) (pieces t mem).2
    exact ⟨nonempty t mem, fun space => (chars _ space).2 rfl,
      fun ends => apart (Text.trim_subset (chars _ ends).1)⟩
  · apply Text.Tight.joinWith nonempty
    rw [words, Text.flatten_words]
    apply Text.tight_trim.filter
    intro c solid
    apply decide_eq_true
    rintro rfl
    cases solid

namespace Program

variable {p : Program}

theorem legible_of_compile {source : String} (compiles : compile source = .ok p) :
    p.rows ≠ [] ∧ ∀ r ∈ p.rows, r.Legible := by
  have read := compile_eq_ok_iff.1 compiles
  constructor
  · intro empty
    rw [empty] at read
    exact Text.segments_ne_nil (List.map_eq_nil_iff.1 read.symm)
  · intro r mem
    have among := List.mem_map_of_mem (f := fun r : Row => r.tokens.map String.toList) mem
    rw [read] at among
    obtain ⟨segment, cut, words⟩ := List.mem_map.1 among
    exact Row.legible_of_words words.symm fun ends => (Text.of_mem_segments cut ends).2 rfl

/-- **Just the programs of legible rows are compiled from a source**, those without a row apart. -/
theorem exists_compile_iff :
    (∃ source, compile source = .ok p) ↔ p.rows ≠ [] ∧ ∀ r ∈ p.rows, r.Legible := by
  constructor
  · rintro ⟨source, compiles⟩
    exact legible_of_compile compiles
  · rintro ⟨nonempty, legible⟩
    exact ⟨p.text, compile_text nonempty legible⟩

/-- **What compiles compiles again from its notation**, to the same program: whatever blanks the source has
around its rows, between their tokens and inside them, and whether or not it names opcodes. A source compiles
to just the program whose tokens are its words. -/
theorem compile_text_of_compile (source : String) (p : Program) :
    (compile source = .ok p → compile p.text = .ok p) ∧
    (compile source = .ok p ↔ (p.rows.map fun r => r.tokens.map String.toList) =
      (Text.segments ';' source.toList).map fun segment => Text.words ' ' (Text.trim segment)) := by
  refine ⟨fun compiles => ?_, compile_eq_ok_iff⟩
  obtain ⟨nonempty, legible⟩ := exists_compile_iff.1 ⟨source, compiles⟩
  exact compile_text nonempty legible

/-- A source with a no-break space inside a mnemonic, a token that is a tab, and blanks wherever they do not
count. -/
def ragged : String :=
  "\n\tring\u00a0bell   a\tb ;jrgt  \t 1 2\r\n;setres\u3000 ok\u2003"

theorem ragged_compiles :
    let p : Program :=
      ⟨[⟨"ring\u00a0bell", ["a\tb"]⟩, ⟨"jrgt", ["\t", "1", "2"]⟩, ⟨"setres\u3000", ["ok"]⟩]⟩
    compile ragged = .ok p ∧ compile p.text = .ok p ∧
      p.text = "ring\u00a0bell a\tb;jrgt \t 1 2;setres\u3000 ok" := by
  intro p
  have compiles : compile ragged = .ok p := by
    apply (compile_text_of_compile ragged p).2.2
    decide +kernel
  exact ⟨compiles, (compile_text_of_compile ragged p).1 compiles, by decide +kernel⟩

end Program

end Formulary
