import Mathlib.Data.List.Basic
import Mathlib.Data.List.DropRight
import Formulary.Text.Blank
import Formulary.Text.Split

/-!
# Cutting, joining and trimming

Cutting a text at a separator undoes joining pieces that are free of it (`segments_joinWith`,
`words_joinWith`); the pieces one behind the other are the text without the separators (`flatten_segments`).
Trimming leaves no blank at the ends of a text (`tight_trim`) and does nothing to a text that has none there
(`Tight.trim_eq`).
-/

namespace Formulary.Text

variable {sep : Char} {cs rest piece : List Char} {ts : List String} {separator : String}

/-! ## Cutting -/

/-- What starts one piece, ends it at each separator and takes all else into the first piece cuts there. -/
theorem eq_splitOn {α : Type} [BEq α] [LawfulBEq α] {sep : α} {f : List α → List (List α)}
    (nil : f [] = [[]]) (cut : ∀ xs, f (sep :: xs) = [] :: f xs)
    (keep : ∀ x xs first others, x ≠ sep → f xs = first :: others → f (x :: xs) = (x :: first) :: others)
    (xs : List α) : f xs = xs.splitOn sep := by
  induction xs with
  | nil => rw [nil, List.splitOn_nil]
  | cons x xs ih =>
    rw [List.splitOn_cons_eq_if_modifyHead]
    by_cases ends : x = sep
    · rw [if_pos (beq_iff_eq.2 ends), ends, cut, ih]
    · obtain ⟨first, others, pieces⟩ := List.exists_cons_of_ne_nil (List.splitOn_ne_nil sep xs)
      rw [if_neg (by simpa using ends), pieces, List.modifyHead_cons]
      exact keep x xs first others ends (ih.trans pieces)

theorem segments_eq_splitOn : segments sep cs = cs.splitOn sep := by
  refine eq_splitOn rfl (fun cs => if_pos rfl) (fun c cs first others kept pieces => ?_) cs
  rw [segments, if_neg kept, pieces, consHead]

theorem segments_ne_nil : segments sep cs ≠ [] := by
  rw [segments_eq_splitOn]
  exact List.splitOn_ne_nil sep cs

theorem segments_of_not_mem (apart : sep ∉ cs) : segments sep cs = [cs] := by
  rw [segments_eq_splitOn, List.splitOn_eq_singleton apart]

/-- The pieces of a text, one behind the other, are the text without the separators. -/
theorem flatten_segments : (segments sep cs).flatten = cs.filter (· ≠ sep) := by
  induction cs with
  | nil => rfl
  | cons c cs ih =>
    by_cases cut : c = sep
    · rw [segments, if_pos cut, List.flatten_cons, List.nil_append, ih,
        List.filter_cons_of_neg (by simpa using cut)]
    · rw [segments, if_neg cut, List.filter_cons_of_pos (by simpa using cut), ← ih]
      cases segments sep cs <;> rfl

theorem flatten_words : (words sep cs).flatten = cs.filter (· ≠ sep) := by
  rw [words, List.flatten_filter_not_isEmpty, flatten_segments]

/-- A character of a piece is one of the text, and not the separator. -/
theorem of_mem_segments {c : Char} (cut : piece ∈ segments sep cs) (mem : c ∈ piece) : c ∈ cs ∧ c ≠ sep := by
  have among : c ∈ (segments sep cs).flatten := List.mem_flatten_of_mem cut mem
  rw [flatten_segments, List.mem_filter] at among
  exact ⟨among.1, of_decide_eq_true among.2⟩

/-- What is free of the separator is what is in front of the first one. -/
theorem splitFirst?_append (apart : sep ∉ piece) : splitFirst? sep (piece ++ sep :: rest) = some (piece, rest) := by
  induction piece with
  | nil => rw [List.nil_append, splitFirst?, if_pos rfl]
  | cons c piece ih =>
    obtain ⟨other, apart⟩ := not_or.1 (mt List.mem_cons.2 apart)
    rw [List.cons_append, splitFirst?, if_neg (Ne.symm other), ih apart, Option.map_some]

/-! ## Joining -/

theorem joinWith_cons {t u : String} :
    (joinWith separator (t :: u :: ts)).toList =
      t.toList ++ separator.toList ++ (joinWith separator (u :: ts)).toList := by
  simp [joinWith]

theorem toList_joinWith :
    (joinWith separator ts).toList = separator.toList.intercalate (ts.map String.toList) := by
  induction ts with
  | nil => rfl
  | cons t ts ih =>
    cases ts with
    | nil => simp [joinWith]
    | cons u ts =>
      rw [joinWith_cons, ih]
      exact List.intercalate_cons_cons.symm

/-- **Cutting at a separator undoes joining with it.** -/
theorem segments_joinWith (single : separator.toList = [sep]) (nonempty : ts ≠ [])
    (apart : ∀ t ∈ ts, sep ∉ t.toList) :
    segments sep (joinWith separator ts).toList = ts.map String.toList := by
  rw [toList_joinWith, single, segments_eq_splitOn]
  apply List.splitOn_intercalate
  · intro piece written
    obtain ⟨t, mem, rfl⟩ := List.mem_map.1 written
    exact apart t mem
  · simpa using nonempty

/-- So does keeping the pieces that are not empty, if none is. -/
theorem words_joinWith (single : separator.toList = [sep]) (nonempty : ts ≠ [])
    (apart : ∀ t ∈ ts, t ≠ "" ∧ sep ∉ t.toList) :
    words sep (joinWith separator ts).toList = ts.map String.toList := by
  rw [words, segments_joinWith single nonempty fun t mem => (apart t mem).2, List.filter_eq_self]
  intro cs piece
  obtain ⟨t, mem, rfl⟩ := List.mem_map.1 piece
  simpa using (apart t mem).1

theorem mem_of_mem_intercalate {α : Type} {x : α} {between : List α} {pieces : List (List α)}
    (mem : x ∈ between.intercalate pieces) : x ∈ between ∨ ∃ piece ∈ pieces, x ∈ piece := by
  induction pieces with
  | nil => cases mem
  | cons first others ih =>
    cases others with
    | nil => exact .inr ⟨first, List.mem_cons_self, by rwa [List.intercalate_singleton] at mem⟩
    | cons second others =>
      rw [List.intercalate_cons_cons, List.mem_append, List.mem_append] at mem
      rcases mem with (first | separated) | later
      · exact .inr ⟨_, List.mem_cons_self, first⟩
      · exact .inl separated
      · exact (ih later).imp_right fun ⟨piece, among, holds⟩ => ⟨piece, List.mem_cons_of_mem _ among, holds⟩

theorem mem_joinWith {c : Char} (mem : c ∈ (joinWith separator ts).toList) :
    c ∈ separator.toList ∨ ∃ t ∈ ts, c ∈ t.toList := by
  rw [toList_joinWith] at mem
  simpa using mem_of_mem_intercalate mem

theorem flatten_ne_nil {t : String} (nonempty : t ≠ "") : ((t :: ts).map String.toList).flatten ≠ [] := by
  simp [nonempty]

/-- The joined text begins like its pieces one behind the other. -/
theorem head?_joinWith (nonempty : ∀ t ∈ ts, t ≠ "") :
    (joinWith separator ts).toList.head? = (ts.map String.toList).flatten.head? := by
  cases ts with
  | nil => rfl
  | cons t ts =>
    have begins : t.toList ≠ [] := by simpa using nonempty t List.mem_cons_self
    cases ts with
    | nil => simp [joinWith]
    | cons u ts =>
      rw [joinWith_cons, List.append_assoc, List.map_cons, List.flatten_cons,
        List.head?_append_of_ne_nil _ begins, List.head?_append_of_ne_nil _ begins]

/-- And it ends like them. -/
theorem getLast?_joinWith (nonempty : ∀ t ∈ ts, t ≠ "") :
    (joinWith separator ts).toList.getLast? = (ts.map String.toList).flatten.getLast? := by
  induction ts with
  | nil => rfl
  | cons t ts ih =>
    obtain ⟨-, others⟩ := List.forall_mem_cons.1 nonempty
    cases ts with
    | nil => simp [joinWith]
    | cons u ts =>
      have characters : ((u :: ts).map String.toList).flatten ≠ [] := flatten_ne_nil (others u List.mem_cons_self)
      have written : (joinWith separator (u :: ts)).toList ≠ [] := by
        intro empty
        apply characters
        rw [← List.getLast?_eq_none_iff, ← ih others, empty, List.getLast?_nil]
      rw [joinWith_cons, List.map_cons, List.flatten_cons, List.getLast?_append_of_ne_nil _ written,
        List.getLast?_append_of_ne_nil _ characters, ih others]

/-! ## Trimming -/

/-- There is no blank at either end. -/
structure Tight (cs : List Char) : Prop where
  first : ∀ c, cs.head? = some c → isBlank c = false
  last : ∀ c, cs.getLast? = some c → isBlank c = false

theorem dropWhile_eq_self {p : Char → Bool} (first : ∀ c, cs.head? = some c → p c = false) :
    cs.dropWhile p = cs := by
  cases cs with
  | nil => rfl
  | cons c cs => rw [List.dropWhile_cons_of_neg (by simp [first c rfl])]

namespace Tight

theorem reverse (h : Tight cs) : Tight cs.reverse where
  first c begins := h.last c (by rwa [List.head?_reverse] at begins)
  last c ends := h.first c (by rwa [List.getLast?_reverse] at ends)

/-- Trimming does nothing to it. -/
theorem trim_eq (h : Tight cs) : trim cs = cs := by
  rw [trim, dropTail, dropWhile_eq_self h.first, dropWhile_eq_self h.reverse.first, List.reverse_reverse]

/-- A text without blanks has none at its ends. -/
theorem of_forall (plain : ∀ c ∈ cs, isBlank c = false) : Tight cs where
  first c begins := plain c (List.mem_of_head? begins)
  last c ends := plain c (List.mem_of_getLast? ends)

/-- If the pieces have no blank at the ends of what they are one behind the other, neither has the text that
joins them. -/
theorem joinWith (nonempty : ∀ t ∈ ts, t ≠ "") (tight : Tight (ts.map String.toList).flatten) :
    Tight (joinWith separator ts).toList where
  first c begins := tight.first c (head?_joinWith nonempty ▸ begins)
  last c ends := tight.last c (getLast?_joinWith nonempty ▸ ends)

end Tight

theorem of_head?_dropWhile {p : Char → Bool} {c : Char} (begins : (cs.dropWhile p).head? = some c) :
    p c = false := by
  have stops := List.head?_dropWhile_not p cs
  rw [begins] at stops
  exact stops

theorem trim_isPrefix : trim cs <+: cs.dropWhile isBlank :=
  List.rdropWhile_prefix isBlank _

theorem trim_subset : trim cs ⊆ cs := by
  intro c mem
  exact (List.dropWhile_suffix isBlank).subset (trim_isPrefix.subset mem)

/-- Trimming leaves no blank at the ends. -/
theorem tight_trim : Tight (trim cs) where
  first c begins := by
    obtain ⟨rest, dropped⟩ : trim cs <+: cs.dropWhile isBlank := trim_isPrefix
    have begins' : (cs.dropWhile isBlank).head? = some c := by
      rw [← dropped, List.head?_append, begins]
      rfl
    exact of_head?_dropWhile begins'
  last c ends := by
    rw [trim, dropTail, List.getLast?_reverse] at ends
    exact of_head?_dropWhile ends

/-- What is kept of a text begins as the text does if that is kept. -/
theorem head?_filter_of {p : Char → Bool} (kept : ∀ c, cs.head? = some c → p c = true) :
    (cs.filter p).head? = cs.head? := by
  cases cs with
  | nil => rfl
  | cons c cs =>
    rw [List.filter_cons_of_pos (kept c rfl)]
    rfl

/-- A text without blanks at its ends has none there either if only blanks are taken out of it. -/
theorem Tight.filter {p : Char → Bool} (h : Tight cs) (kept : ∀ c, isBlank c = false → p c = true) :
    Tight (cs.filter p) where
  first c begins := by
    rw [head?_filter_of fun c found => kept c (h.first c found)] at begins
    exact h.first c begins
  last c ends := by
    rw [← List.head?_reverse, ← List.filter_reverse,
      head?_filter_of fun c found => kept c (h.reverse.first c found)] at ends
    exact h.reverse.first c ends

end Formulary.Text
