import Formulary.Proofs.Text.Cutting

/-!
# Pieces, runs and stripped texts

What cutting and trimming come to, said of the text alone. The pieces of a list are what makes it up with one
separator between each two of them (`Pieces`); the longest runs without separators are what is left of a text
when all separators are taken out (`LongestRuns`); and a stripped text has only blanks around it and none at
its own ends (`Stripped`). There is just one of each, and it is computed: `pieces_iff`, `longestRuns_iff`,
`stripped_iff`.
-/

namespace Formulary.Text

/-- The list is made up of the pieces, one separator between each two of them and none inside. -/
structure Pieces {α : Type} (sep : α) (xs : List α) (pieces : List (List α)) : Prop where
  nonempty : pieces ≠ []
  apart : ∀ piece ∈ pieces, sep ∉ piece
  joined : [sep].intercalate pieces = xs

/-- The runs of characters other than the separator, in order, each as long as it can be: it starts where the
text does or behind a separator, and ends at the next separator or with the text. -/
inductive LongestRuns (sep : Char) : List Char → List (List Char) → Prop where
  | nil : LongestRuns sep [] []
  | skip {cs runs} (later : LongestRuns sep cs runs) : LongestRuns sep (sep :: cs) runs
  | run {run cs runs} (nonempty : run ≠ []) (apart : sep ∉ run) (ends : cs = [] ∨ cs.head? = some sep)
      (later : LongestRuns sep cs runs) : LongestRuns sep (run ++ cs) (run :: runs)

/-- There are only blanks in the text. -/
def Blank (cs : List Char) : Prop :=
  ∀ c ∈ cs, isBlank c = true

/-- The core is the text without the blanks around it. -/
structure Stripped (cs core : List Char) : Prop where
  around : ∃ before after, cs = before ++ core ++ after ∧ Blank before ∧ Blank after
  tight : Tight core

/-! ## Pieces -/

section

variable {α : Type} [BEq α] [LawfulBEq α] {sep : α} {xs : List α} {pieces : List (List α)}

theorem not_mem_of_mem_splitOn : ∀ piece ∈ xs.splitOn sep, sep ∉ piece := by
  induction xs with
  | nil => simp
  | cons x xs ih =>
    rw [List.splitOn_cons_eq_if_modifyHead]
    split
    · exact List.forall_mem_cons.2 ⟨List.not_mem_nil, ih⟩
    · rename_i other
      obtain ⟨first, others, pieces⟩ := List.exists_cons_of_ne_nil (List.splitOn_ne_nil sep xs)
      rw [pieces] at ih ⊢
      obtain ⟨ofFirst, ofOthers⟩ := List.forall_mem_cons.1 ih
      rw [List.modifyHead_cons]
      refine List.forall_mem_cons.2 ⟨?_, ofOthers⟩
      rw [List.mem_cons, not_or]
      exact ⟨fun same => other (beq_iff_eq.2 same.symm), ofFirst⟩

/-- **A list has just one list of pieces**, the one that cutting it gives. -/
theorem pieces_iff : Pieces sep xs pieces ↔ xs.splitOn sep = pieces := by
  constructor
  · rintro ⟨nonempty, apart, rfl⟩
    exact List.splitOn_intercalate sep apart nonempty
  · rintro rfl
    exact ⟨List.splitOn_ne_nil sep xs, not_mem_of_mem_splitOn, List.intercalate_splitOn sep⟩

end

variable {sep : Char} {cs core run rest : List Char} {runs : List (List Char)}

theorem pieces_segments : Pieces sep cs (segments sep cs) :=
  pieces_iff.2 segments_eq_splitOn.symm

/-! ## Longest runs -/

/-- Words do not go over a separator. -/
theorem words_append_cons : words sep (cs ++ sep :: rest) = words sep cs ++ words sep rest := by
  simp only [words, segments_eq_splitOn, List.splitOn_append_cons_self, List.filter_append]

theorem words_cons_sep : words sep (sep :: cs) = words sep cs :=
  @words_append_cons sep [] cs

theorem words_of_not_mem (nonempty : run ≠ []) (apart : sep ∉ run) : words sep run = [run] := by
  simp [words, segments_of_not_mem apart, nonempty]

/-- The pieces that are not empty are the longest runs of the text they make up. -/
theorem longestRuns_intercalate {pieces : List (List Char)} (apart : ∀ piece ∈ pieces, sep ∉ piece) :
    LongestRuns sep ([sep].intercalate pieces) (pieces.filter (!·.isEmpty)) := by
  induction pieces with
  | nil => exact .nil
  | cons piece pieces ih =>
    obtain ⟨first, others⟩ := List.forall_mem_cons.1 apart
    cases pieces with
    | nil =>
      rw [List.intercalate_singleton]
      by_cases empty : piece = []
      · subst empty
        exact .nil
      · rw [List.filter_cons_of_pos (by simpa using empty)]
        have read := LongestRuns.run empty first (.inl rfl) .nil
        rwa [List.append_nil] at read
    | cons next pieces =>
      rw [List.intercalate_cons_cons, List.append_assoc]
      by_cases empty : piece = []
      · subst empty
        exact .skip (ih others)
      · rw [List.filter_cons_of_pos (by simpa using empty)]
        exact .run empty first (.inr rfl) (.skip (ih others))

/-- **A text has just one list of longest runs**, that of its words. -/
theorem longestRuns_iff : LongestRuns sep cs runs ↔ words sep cs = runs := by
  constructor
  · intro read
    induction read with
    | nil => rfl
    | skip _ ih => rw [words_cons_sep, ih]
    | run nonempty apart ends _ ih =>
      rcases ends with rfl | begins
      · rw [List.append_nil, words_of_not_mem nonempty apart, ← ih]
        rfl
      · obtain ⟨rest, rfl⟩ := List.head?_eq_some_iff.1 begins
        rw [words_append_cons, words_of_not_mem nonempty apart, ← ih, words_cons_sep]
        rfl
  · rintro rfl
    have cut : Pieces sep cs (segments sep cs) := pieces_segments
    have read := longestRuns_intercalate cut.apart
    rw [cut.joined] at read
    exact read

/-! ## Stripped texts -/

theorem dropTail_append {p : Char → Bool} (dropped : ∀ c ∈ rest, p c = true) :
    dropTail p (cs ++ rest) = dropTail p cs := by
  rw [dropTail, List.reverse_append, List.dropWhile_append_of_pos, dropTail]
  intro c mem
  exact dropped c (List.mem_reverse.1 mem)

theorem trim_blank_append (blank : Blank run) : trim (run ++ cs) = trim cs := by
  rw [trim, List.dropWhile_append_of_pos blank, trim]

theorem trim_append_blank (blank : Blank run) : trim (cs ++ run) = trim cs := by
  rw [trim, List.dropWhile_append]
  split
  · rename_i empty
    rw [trim, List.isEmpty_iff.1 empty, List.dropWhile_eq_nil_iff.2 blank]
  · rw [dropTail_append blank, trim]

theorem stripped_trim : Stripped cs (trim cs) where
  around := by
    have ends := List.takeWhile_append_dropWhile (p := isBlank) (l := (cs.dropWhile isBlank).reverse)
    refine ⟨cs.takeWhile isBlank, ((cs.dropWhile isBlank).reverse.takeWhile isBlank).reverse, ?_, ?_, ?_⟩
    · rw [trim, dropTail, List.append_assoc, ← List.reverse_append, ends, List.reverse_reverse,
        List.takeWhile_append_dropWhile]
    · exact fun c mem => List.mem_takeWhile_imp mem
    · exact fun c mem => List.mem_takeWhile_imp (List.mem_reverse.1 mem)
  tight := tight_trim

/-- **A text is stripped in just one way**, by trimming it. -/
theorem stripped_iff : Stripped cs core ↔ trim cs = core := by
  constructor
  · rintro ⟨⟨before, after, rfl, blank, blank'⟩, tight⟩
    rw [trim_append_blank blank', trim_blank_append blank, tight.trim_eq]
  · rintro rfl
    exact stripped_trim

theorem trim_eq_nil_iff : trim cs = [] ↔ Blank cs := by
  constructor
  · intro empty
    obtain ⟨⟨before, after, rfl, blank, blank'⟩, -⟩ := stripped_iff.2 empty
    intro c mem
    rw [List.append_nil, List.mem_append] at mem
    exact mem.elim (blank c) (blank' c)
  · intro blank
    rw [← List.append_nil cs, trim_blank_append blank]
    rfl

/-- **The two notions of nothing to read agree**: what is left between spaces of a trimmed text is nothing
just if the text is blank. -/
theorem words_trim_eq_nil_iff : words ' ' (trim cs) = [] ↔ Blank cs := by
  rw [← trim_eq_nil_iff]
  constructor
  · intro wordless
    have spaces : (trim cs).filter (· ≠ ' ') = [] := by rw [← flatten_words, wordless, List.flatten_nil]
    cases core : trim cs with
    | nil => rfl
    | cons c rest =>
      have solid : isBlank c = false := tight_trim.first c (by rw [core]; rfl)
      have space : c = ' ' := by
        have dropped := List.filter_eq_nil_iff.1 spaces c (core ▸ List.mem_cons_self)
        simpa using dropped
      rw [space] at solid
      cases solid
  · intro empty
    rw [empty]
    rfl

end Formulary.Text
