import Mathlib.Data.List.Infix
import Mathlib.Data.List.Pairwise
import Mathlib.Data.List.Sort
import Formulary.Proofs.LengthRule.Encoding
import Formulary.Proofs.LengthRule.Offsets

/-!
# The leftmost bracket groups

Which of the bracket groups of a text its tokens come from, and what becomes of the brackets that are in none.
Groups can begin inside others, since a content may hold open brackets. Of all that begin somewhere in the text
(`Span`) the leftmost ones are taken: they come in order, none begins before the one in front of it has ended,
and each group of the text begins inside one of them (`Leftmost`). There is just one such list (`exists_leftmost_iff`).
The other brackets are litter (`Litter`): it gives no token, and the tokens before it and behind it are found as
if it were not there.
-/

namespace Formulary.LengthRule

/-! ## Groups at their places -/

/-- A bracket group of a text: where it begins, its content, and what follows it. -/
structure Span (text : List Char) where
  start : Nat
  content : List Char
  rest : List Char
  here : Bracket (text.drop start) content rest

/-- Where the group has ended: behind its two brackets and the content between them. -/
def Span.stop {text : List Char} (s : Span text) : Nat :=
  s.start + s.content.length + 2

/-- The groups come in order, none begins before the one in front of it has ended, and each group of the text
begins inside one of them. -/
structure Leftmost {text : List Char} (spans : List (Span text)) : Prop where
  apart : spans.Pairwise fun s t => s.stop ≤ t.start
  covers : ∀ s : Span text, ∃ taken ∈ spans, taken.start ≤ s.start ∧ s.start < taken.stop

variable {cs front rest content content' rest' text : List Char} {contents : List (List Char)}

theorem Bracket.unique (h : Bracket cs content rest) (h' : Bracket cs content' rest') :
    content = content' ∧ rest = rest' := by
  obtain ⟨rfl, -⟩ := List.cons.inj ((scan_bracket h).symm.trans (scan_bracket h'))
  have same : '[' :: content ++ ']' :: rest = '[' :: content ++ ']' :: rest' := h.text.symm.trans h'.text
  rw [List.append_cancel_left_eq, List.cons_inj_right] at same
  exact ⟨rfl, same⟩

namespace Span

theorem start_lt_stop (s : Span text) : s.start < s.stop :=
  Nat.lt_add_of_pos_right (n := s.start) (k := s.content.length + 2) (Nat.succ_pos _)

/-- One group at most begins at a place. -/
theorem start_injective : Function.Injective (start : Span text → Nat) := by
  rintro ⟨start, content, rest, here⟩ ⟨_, content', rest', here'⟩ rfl
  obtain ⟨rfl, rfl⟩ := here.unique here'
  rfl

/-- The group where it stands with a text in front. -/
def behind (split : text = front ++ cs) (s : Span cs) : Span text where
  start := front.length + s.start
  content := s.content
  rest := s.rest
  here := by
    rw [split, List.drop_length_add_append]
    exact s.here

theorem start_behind (split : text = front ++ cs) (s : Span cs) :
    (s.behind split).start = front.length + s.start :=
  rfl

theorem stop_behind (split : text = front ++ cs) (s : Span cs) :
    (s.behind split).stop = front.length + s.stop := by
  rw [stop, start_behind, stop, Nat.add_assoc, Nat.add_assoc, ← Nat.add_assoc s.start]
  rfl

theorem map_content_behind (split : text = front ++ cs) (spans : List (Span cs)) :
    (spans.map (behind split)).map Span.content = spans.map Span.content := by
  rw [List.map_map]
  rfl

/-- The groups that do not begin in the text in front are groups of what follows it. -/
theorem exists_behind (split : text = front ++ cs) (s : Span text) (le : front.length ≤ s.start) :
    ∃ t : Span cs, t.behind split = s := by
  obtain ⟨start, content, rest, here⟩ := s
  obtain ⟨n, rfl⟩ := Nat.exists_eq_add_of_le le
  rw [split, List.drop_length_add_append] at here
  exact ⟨⟨n, content, rest, here⟩, rfl⟩

end Span

namespace Leftmost

variable {spans others : List (Span text)}

theorem nil : Leftmost ([] : List (Span [])) where
  apart := .nil
  covers s := by
    have begins := s.here.text
    rw [List.drop_nil] at begins
    cases begins

theorem sorted (h : Leftmost spans) : (spans.map Span.start).SortedLT := by
  rw [List.sortedLT_iff_pairwise, List.pairwise_map]
  exact h.apart.imp fun {s t} apart => Nat.lt_of_lt_of_le s.start_lt_stop apart

/-- Of two groups that are taken the one that begins first has ended where the other begins. -/
theorem stop_le (h : Leftmost spans) {s t : Span text} (mem : s ∈ spans) (mem' : t ∈ spans)
    (lt : s.start < t.start) : s.stop ≤ t.start := by
  have eitherWay : spans.Pairwise fun s t => s.stop ≤ t.start ∨ t.stop ≤ s.start := h.apart.imp .inl
  have other : s ≠ t := by
    rintro rfl
    exact Nat.lt_irrefl _ lt
  have : Std.Symm fun s t : Span text => s.stop ≤ t.start ∨ t.stop ≤ s.start := ⟨fun _ _ => Or.symm⟩
  rcases eitherWay.forall mem mem' other with apart | apart
  · exact apart
  · have := t.start_lt_stop
    omega

/-- A group that is taken in one list is taken in each: else it would begin inside an earlier one there, which
would be taken here as well, by induction on where groups begin. -/
theorem mem_of_mem {spans others : List (Span text)} (h : Leftmost spans) (h' : Leftmost others) {s : Span text}
    (mem : s ∈ spans) : s ∈ others := by
  obtain ⟨taken, among, le, lt⟩ := h'.covers s
  rcases Nat.eq_or_lt_of_le le with same | earlier
  · rwa [← Span.start_injective same]
  · have here : taken ∈ spans := mem_of_mem h' h among
    exact absurd (h.stop_le here mem earlier) (Nat.not_le.2 lt)
termination_by s.start

/-- **There is just one such list.** -/
theorem unique (h : Leftmost spans) (h' : Leftmost others) : spans = others := by
  refine List.map_injective_iff.2 Span.start_injective (h.sorted.eq_of_mem_iff h'.sorted fun n => ?_)
  have same : ∀ s, s ∈ spans ↔ s ∈ others := fun s => ⟨mem_of_mem h h', mem_of_mem h' h⟩
  simp only [List.mem_map, same]

section Behind

variable {spans : List (Span cs)}

theorem apart_behind (h : Leftmost spans) (split : text = front ++ cs) :
    (spans.map (Span.behind split)).Pairwise fun s t => s.stop ≤ t.start := by
  rw [List.pairwise_map]
  refine h.apart.imp fun {s t} apart => ?_
  rw [Span.stop_behind, Span.start_behind]
  exact Nat.add_le_add_left apart _

theorem covers_behind (h : Leftmost spans) (split : text = front ++ cs) {s : Span text}
    (le : front.length ≤ s.start) :
    ∃ taken ∈ spans.map (Span.behind split), taken.start ≤ s.start ∧ s.start < taken.stop := by
  obtain ⟨t, rfl⟩ := Span.exists_behind split s le
  obtain ⟨taken, among, le, lt⟩ := h.covers t
  refine ⟨_, List.mem_map_of_mem among, ?_, ?_⟩
  · rw [Span.start_behind, Span.start_behind]
    exact Nat.add_le_add_left le _
  · rw [Span.start_behind, Span.stop_behind]
    exact Nat.add_lt_add_left lt _

/-- A character at which no group begins adds none. -/
theorem skip {c : Char} (h : Leftmost spans) (split : text = [c] ++ cs)
    (no : ∀ content rest, ¬ Bracket text content rest) : Leftmost (spans.map (Span.behind split)) where
  apart := h.apart_behind split
  covers s := by
    refine h.covers_behind split (Nat.pos_of_ne_zero fun first => ?_)
    have here := s.here
    rw [first, List.drop_zero] at here
    exact no _ _ here

/-- A group that is all there is in front is taken, and those that begin inside it are not. -/
theorem cons (h : Leftmost spans) (split : text = front ++ cs) {first : Span text} (begins : first.start = 0)
    (ends : first.stop = front.length) : Leftmost (first :: spans.map (Span.behind split)) where
  apart := by
    refine List.pairwise_cons.2 ⟨fun s mem => ?_, h.apart_behind split⟩
    obtain ⟨t, -, rfl⟩ := List.mem_map.1 mem
    rw [Span.start_behind, ends]
    exact Nat.le_add_right _ _
  covers s := by
    by_cases inside : s.start < first.stop
    · exact ⟨first, List.mem_cons_self, begins ▸ Nat.zero_le _, inside⟩
    · obtain ⟨taken, among, covers⟩ := h.covers_behind split (ends ▸ Nat.not_lt.1 inside)
      exact ⟨taken, List.mem_cons_of_mem _ among, covers⟩

end Behind

end Leftmost

/-- The contents that are found from left to right are those of leftmost groups. -/
theorem exists_leftmost (read : Brackets cs contents) :
    ∃ spans : List (Span cs), Leftmost spans ∧ spans.map Span.content = contents := by
  induction read with
  | nil => exact ⟨[], .nil, rfl⟩
  | @skip c cs contents no later ih =>
    obtain ⟨spans, leftmost, held⟩ := ih
    refine ⟨_, leftmost.skip rfl no, ?_⟩
    rw [Span.map_content_behind, held]
  | @bracket cs content rest contents here later ih =>
    obtain ⟨spans, leftmost, held⟩ := ih
    have split : cs = ('[' :: content ++ [']']) ++ rest := by simp [here.text]
    let first : Span cs := ⟨0, content, rest, here⟩
    have ends : first.stop = ('[' :: content ++ [']']).length := by simp [first, Span.stop]
    refine ⟨_, leftmost.cons split (rfl : first.start = 0) ends, ?_⟩
    rw [List.map_cons, Span.map_content_behind, held]

/-- **A text has just one list of leftmost groups**, and its contents are those found from left to right. -/
theorem exists_leftmost_iff (read : Brackets cs contents) :
    ∃ spans : List (Span cs), (∀ others, Leftmost others ↔ others = spans) ∧ spans.map Span.content = contents := by
  obtain ⟨spans, leftmost, held⟩ := exists_leftmost read
  refine ⟨spans, fun others => ⟨fun also => also.unique leftmost, ?_⟩, held⟩
  rintro rfl
  exact leftmost

/-! ## Litter -/

/-- No group is open at the end of the text: wherever there is an open bracket, a closing one follows. -/
def Settled (cs : List Char) : Prop :=
  ∀ tail, tail <:+ cs → '[' ∈ tail → ']' ∈ tail

instance : Decidable (Settled cs) :=
  decidable_of_iff (∀ tail ∈ cs.tails, '[' ∈ tail → ']' ∈ tail) (by simp only [Settled, List.mem_tails])

/-- Brackets between two texts that belong to no group: a closing one where none is open, a pair with nothing
inside where none is open, or an open one that is never closed. -/
inductive Litter (before : String) : String → String → Prop where
  | stray {after} (settled : Settled before.toList) : Litter before "]" after
  | empty {after} (settled : Settled before.toList) : Litter before "[]" after
  | unclosed {after} (never : ']' ∉ after.toList) : Litter before "[" after

theorem Settled.suffix {tail : List Char} (settled : Settled cs) (ends : tail <:+ cs) : Settled tail :=
  fun _ shorter => settled _ (shorter.trans ends)

/-- Behind a text in which no group is open the scanner begins anew. -/
theorem scan_append (settled : Settled cs) : scan none (cs ++ rest) = scan none cs ++ scan none rest := by
  have read := brackets_scan cs
  generalize scan none cs = contents at read ⊢
  induction read with
  | nil => rfl
  | @skip c cs contents no later ih =>
    rw [← ih (settled.suffix (List.suffix_cons c cs))]
    by_cases opens : c = '['
    · subst opens
      have closed : ']' ∈ cs := by simpa using settled _ List.suffix_rfl List.mem_cons_self
      obtain ⟨after, rfl⟩ := exists_eq_cons no closed
      rfl
    · rw [List.cons_append, scan, if_neg opens]
  | @bracket cs content after contents here later ih =>
    have ends : after <:+ cs := ⟨'[' :: content ++ [']'], by simp [here.text]⟩
    have longer : Bracket (cs ++ rest) content (after ++ rest) :=
      ⟨by simp [here.text], here.nonempty, here.closes⟩
    rw [scan_bracket longer, ih (settled.suffix ends), List.cons_append]

/-- A text that closes no bracket adds nothing to the one in front of it. -/
theorem scan_append_of_unclosed (unclosed : ']' ∉ rest) (inside : Option (List Char)) :
    scan inside (cs ++ rest) = scan inside cs := by
  induction cs generalizing inside with
  | nil =>
    rw [List.nil_append, scan_of_not_mem unclosed]
    cases inside <;> rfl
  | cons c cs ih =>
    cases inside with
    | none => exact ih _
    | some held => rw [List.cons_append, scan, scan, ih, ih]

/-- **Litter gives no token and hides none.** -/
theorem bracketed_litter {before litter after : String} (found : Litter before litter after) :
    bracketed (before ++ litter ++ after) = bracketed before ++ bracketed after := by
  have scanned : scan none (before.toList ++ (litter.toList ++ after.toList)) =
      scan none before.toList ++ scan none after.toList := by
    cases found with
    | stray settled => exact scan_append settled
    | empty settled => exact scan_append settled
    | unclosed never =>
      have never' : ']' ∉ "[".toList ++ after.toList := by simpa using never
      rw [scan_append_of_unclosed never', scan_of_not_mem never, List.append_nil]
  rw [bracketed, String.toList_append, String.toList_append, List.append_assoc, scanned, List.map_append]
  rfl

theorem bracketable_of_mem_bracketed {text t : String} (mem : t ∈ bracketed text) : Bracketable t := by
  obtain ⟨spans, -, held⟩ := exists_leftmost (bracketed_eq_iff.1 (rfl : bracketed text = _))
  obtain ⟨s, -, content⟩ := List.mem_map.1 (held ▸ List.mem_map_of_mem (f := String.toList) mem)
  have nonempty : t.toList ≠ [] := content ▸ s.here.nonempty
  exact ⟨by simpa using nonempty, content ▸ s.here.closes⟩

/-- **The tokens of a text are the contents of its leftmost bracket groups.** Looking for them byte by byte comes to
an end, with no cut inside a character, and gives the same tokens. There is just one list of leftmost groups, and
the tokens are their contents, in order. None is empty and none closes a bracket. And litter gives no token, nor
does it hide one: the tokens are those of what stands before it and those of what stands behind it. -/
theorem bracketed_leftmost (text : String) :
    cutFrom text 0 = some (bracketed text) ∧
      (∃ spans : List (Span text.toList), (∀ others, Leftmost others ↔ others = spans) ∧
        spans.map Span.content = (bracketed text).map String.toList) ∧
      (∀ t ∈ bracketed text, Bracketable t) ∧
      ∀ before litter after, text = before ++ litter ++ after → Litter before litter after →
        bracketed text = bracketed before ++ bracketed after := by
  refine ⟨cutFrom_zero text, exists_leftmost_iff (bracketed_eq_iff.1 rfl), fun t => bracketable_of_mem_bracketed, ?_⟩
  rintro before litter after rfl found
  exact bracketed_litter found

/-- A text with stray, empty and unclosed brackets, open brackets in a group, and characters of several bytes. -/
def clutter : String :=
  "é]a[][x[é]]€[]b[yz]c[𝒫"

theorem clutter_leftmost :
    (clutter = "é]a[][x[é]" ++ "]" ++ "€[]b[yz]c[𝒫" ∧ Litter "é]a[][x[é]" "]" "€[]b[yz]c[𝒫") ∧
      bracketed clutter = bracketed "é]a[][x[é]" ++ bracketed "€[]b[yz]c[𝒫" ∧
      cutFrom clutter 0 = some ["x[é", "yz"] := by
  have text : clutter = "é]a[][x[é]" ++ "]" ++ "€[]b[yz]c[𝒫" := by decide
  have found : Litter "é]a[][x[é]" "]" "€[]b[yz]c[𝒫" := .stray (by decide)
  have tokens : bracketed clutter = ["x[é", "yz"] := by decide
  refine ⟨⟨text, found⟩, (bracketed_leftmost clutter).2.2.2 _ _ _ text found, ?_⟩
  rw [← tokens]
  exact (bracketed_leftmost clutter).1

end Formulary.LengthRule
