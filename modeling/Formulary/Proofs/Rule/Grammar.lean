import Formulary.Proofs.Rule.Notation
import Formulary.Proofs.Text.Pieces
import Formulary.Proofs.Traversal

/-!
# The grammar of rule programs

What a program is written in, said of its source alone. The source is cut at its semicolons into segments, and
a segment holds the row whose tokens are the longest runs without spaces of the segment stripped of blanks
(`Row.WrittenIn`). Two notions of blank meet here: stripping goes by all blanks and cutting by the space alone,
and still a segment holds no row just if it is blank (`Row.ofSegment?_eq_none_iff`), since a stripped text that
is not empty begins with a character that is no space. `Program.compile_exact` says that compiling accepts what
is so written, and nothing else.
-/

namespace Formulary

theorem Opcode.ofMnemonic?_eq_some_iff {token : String} {op : Opcode} :
    ofMnemonic? token = some op ↔ op.mnemonic = token := by
  constructor
  · intro found
    have same := List.find?_some (p := fun op : Opcode => op.mnemonic == token) found
    exact eq_of_beq same
  · rintro rfl
    cases op <;> decide

namespace Row

variable {r : Row} {segment : List Char}

/-- The row is written in the segment: its tokens are the longest runs without spaces of the segment without
the blanks around it. -/
def WrittenIn (r : Row) (segment : List Char) : Prop :=
  ∃ core, Text.Stripped segment core ∧ Text.LongestRuns ' ' core (r.tokens.map String.toList)

theorem writtenIn_iff :
    r.WrittenIn segment ↔ r.tokens.map String.toList = Text.words ' ' (Text.trim segment) := by
  constructor
  · rintro ⟨core, stripped, runs⟩
    rw [Text.stripped_iff.1 stripped, Text.longestRuns_iff.1 runs]
  · intro words
    exact ⟨Text.trim segment, Text.stripped_trim, Text.longestRuns_iff.2 words.symm⟩

theorem ofSegment?_eq_none_iff : ofSegment? segment = none ↔ Text.Blank segment := by
  rw [← Text.words_trim_eq_nil_iff, ofSegment?]
  cases Text.words ' ' (Text.trim segment) with
  | nil => simp
  | cons first others => simp

end Row

namespace Program

variable {source : String} {segments : List (List Char)} {p : Program} {e : RuleError}

/-- The first blank segment is the error, by its index. -/
theorem ofSegments_eq_error_iff {index : Nat} :
    ofSegments index segments = .error e ↔
      ∃ n segment, First Text.Blank segments n segment ∧ e = .emptyRow (index + n) := by
  induction segments generalizing index with
  | nil => exact ⟨nofun, fun first => (not_first_nil first).elim⟩
  | cons segment segments ih =>
    rw [ofSegments]
    cases row : Row.ofSegment? segment with
    | none =>
      rw [first_cons_of_holds (Row.ofSegment?_eq_none_iff.1 row)]
      simp [eq_comm]
    | some r =>
      have solid : ¬ Text.Blank segment := by
        rw [← Row.ofSegment?_eq_none_iff, row]
        exact Option.some_ne_none r
      have later : (ofSegments (index + 1) segments).map (r :: ·) = .error e ↔
          ofSegments (index + 1) segments = .error e := by
        cases ofSegments (index + 1) segments <;> simp [Except.map]
      rw [first_cons_of_fails solid]
      refine later.trans (ih.trans ?_)
      simp only [Nat.add_right_comm index 1, Nat.add_assoc]

/-- **What does not compile has a blank segment**, and the first one is the error. -/
theorem compile_eq_error_iff (cut : Text.Pieces ';' source.toList segments) :
    compile source = .error e ↔ ∃ n segment, First Text.Blank segments n segment ∧ e = .emptyRow n := by
  have read : ofSegments 0 segments = .error e ↔
      ∃ n segment, First Text.Blank segments n segment ∧ e = .emptyRow n := by
    simpa using @ofSegments_eq_error_iff segments e 0
  rw [← read, compile, Text.segments_eq_splitOn, Text.pieces_iff.1 cut]
  cases ofSegments 0 segments <;> simp [Except.map]

/-- **What compiles has a row in every segment**, and these are its rows. -/
theorem compile_eq_ok_iff_forall₂ (cut : Text.Pieces ';' source.toList segments) :
    compile source = .ok p ↔ List.Forall₂ Row.WrittenIn p.rows segments := by
  have written : Row.WrittenIn = fun r segment =>
      r.tokens.map String.toList = Text.words ' ' (Text.trim segment) := by
    funext r segment
    exact propext Row.writtenIn_iff
  rw [compile_eq_ok_iff, Text.segments_eq_splitOn, Text.pieces_iff.1 cut, ← List.forall₂_eq_eq_eq,
    List.forall₂_map_left_iff, List.forall₂_map_right_iff, written]

/-- Only a blank segment keeps a source from compiling. -/
theorem compile_fails_iff (cut : Text.Pieces ';' source.toList segments) :
    (∃ e, compile source = .error e) ↔ ∃ segment ∈ segments, Text.Blank segment := by
  constructor
  · rintro ⟨e, failed⟩
    obtain ⟨n, segment, first, -⟩ := (compile_eq_error_iff cut).1 failed
    exact ⟨segment, first.mem, first.holds⟩
  · intro blank
    obtain ⟨n, segment, first⟩ := exists_first blank
    exact ⟨.emptyRow n, (compile_eq_error_iff cut).2 ⟨n, segment, first, rfl⟩⟩

/-- **The grammar of programs.** A source is cut at its semicolons into segments, in just one way. It does not
compile just if one of them is blank, and the error is then the index of the first that is. Otherwise it
compiles to the program that has one row for each segment, in order, the one written in it. No token of a row
is empty or holds a space or a semicolon, and the opcode of the row is the one whose mnemonic its first token
is, if there is one. -/
theorem compile_exact (source : String) :
    ∃ segments, Text.Pieces ';' source.toList segments ∧
      (∀ others, Text.Pieces ';' source.toList others → others = segments) ∧
      ((∃ e, compile source = .error e) ↔ ∃ segment ∈ segments, Text.Blank segment) ∧
      (∀ e, compile source = .error e ↔
        ∃ n segment, First Text.Blank segments n segment ∧ e = .emptyRow n) ∧
      (∀ p, compile source = .ok p ↔ List.Forall₂ Row.WrittenIn p.rows segments) ∧
      ∀ p, compile source = .ok p → ∀ r ∈ p.rows,
        (∀ t ∈ r.tokens, t ≠ "" ∧ ' ' ∉ t.toList ∧ ';' ∉ t.toList) ∧
          ∀ op, r.opcode? = some op ↔ op.mnemonic = r.mnemonic := by
  have cut : Text.Pieces ';' source.toList (Text.segments ';' source.toList) := Text.pieces_segments
  have only : ∀ others, Text.Pieces ';' source.toList others → others = Text.segments ';' source.toList := by
    intro others cut'
    rw [← Text.pieces_iff.1 cut', Text.pieces_iff.1 cut]
  refine ⟨_, cut, only, compile_fails_iff cut, fun e => compile_eq_error_iff cut,
    fun p => compile_eq_ok_iff_forall₂ cut, fun p compiles r mem => ⟨?_, fun op => ?_⟩⟩
  · exact ((legible_of_compile compiles).2 r mem).tokens
  · exact Opcode.ofMnemonic?_eq_some_iff

/-- A source with blanks of several kinds around its rows and inside their tokens, and a row of a mnemonic that
is no instruction. -/
def margins : String :=
  "\t\u3000s  total a\u00a0b \n;\u2003nop;setres \u0085 done\r\n"

theorem margins_exact :
    let p : Program := ⟨[⟨"s", ["total", "a\u00a0b"]⟩, ⟨"nop", []⟩, ⟨"setres", ["\u0085", "done"]⟩]⟩
    compile margins = .ok p ∧
      ∃ segments, Text.Pieces ';' margins.toList segments ∧ List.Forall₂ Row.WrittenIn p.rows segments ∧
        ∀ r ∈ p.rows, (∀ t ∈ r.tokens, t ≠ "" ∧ ' ' ∉ t.toList ∧ ';' ∉ t.toList) ∧
          ∀ op, r.opcode? = some op ↔ op.mnemonic = r.mnemonic := by
  intro p
  have compiles : compile margins = .ok p := by decide +kernel
  obtain ⟨segments, cut, -, -, -, rows, tokens⟩ := compile_exact margins
  exact ⟨compiles, segments, cut, (rows p).1 compiles, tokens p compiles⟩

end Program

end Formulary
