import Mathlib.Data.List.Forall2
import Formulary.Json.Reader
import Formulary.Proofs.Json.Scalar

/-!
# Reading JSON back

`Leads` says what a text does to the reader, wherever it stands: it leads from one state to another. A text that
leads, from where a value is expected, to where that value has been read, stands for the value (`Reads`); and so
do, for an array or an object of such values, their texts with commas between them in brackets (`Reads.array`,
`Reads.object`). So what is written for a document is read back, on one line or over several (`read?_compact`,
`read?_pretty`), if it has only texts, truth values and finite numbers in it (`Plain`).

A text without blanks around it is read as a scalar just if it spells the scalar (`read?_eq_some_iff`).
-/

namespace Formulary.Json

open State (step start close)

/-- The state behind a text that is read from the given state on. -/
def readFrom (s : State) (cs : List Char) : Option State :=
  (tokens? cs).bind fun ts => ts.foldlM step s

/-- Wherever the text stands, it leads from the one state to the other. -/
def Leads (s : State) (text : List Char) (s' : State) : Prop :=
  ∀ rest, Delimited rest → readFrom s (text ++ rest) = readFrom s' rest

/-- A value may start here, inside the open containers `outer`. -/
def Expects (s : State) (outer : List Open) : Prop :=
  ∀ t, t ≠ .closeArray → step s t = start outer t

/-- A key may start here, in an object with these members inside `outer`. -/
def ExpectsKey (s : State) (members : List (String × Json)) (outer : List Open) : Prop :=
  ∀ name, step s (.scalar (.text name)) = some (.colon members name outer)

/-- The text stands for the value wherever one may start. -/
def Reads (text : List Char) (v : Json) : Prop :=
  ∀ s outer, Expects s outer → Leads s text (close v outer)

/-- The text stands for the member wherever a key may start. -/
def ReadsMember (text : List Char) (m : String × Json) : Prop :=
  ∀ s members outer, ExpectsKey s members outer → Leads s text (.after (.object (m :: members) m.1) outer)

/-- There are only texts, truth values and finite numbers in the document. -/
inductive Plain : Json → Prop where
  | null : Plain .null
  | bool {b} : Plain (.bool b)
  | number {x} (finite : x.isFinite = true) : Plain (.number x)
  | text {s} : Plain (.text s)
  | array {items} (all : ∀ v ∈ items, Plain v) : Plain (.array items)
  | object {members} (all : ∀ m ∈ members, Plain m.2) : Plain (.object members)

/-- The character is a token on its own, and no number goes on with it. -/
structure Mark (c : Char) (t : Token) : Prop where
  taken : ∀ rest, token? (c :: rest) = some (t, rest)
  apart : ∀ rest, Delimited (c :: rest)

/-- A container is open, or the document is one. -/
def Enclosed : State → Prop
  | .value outer => outer ≠ []
  | .done (.array _) => True
  | .done (.object _) => True
  | .done _ => False
  | _ => True

variable {s s' s'' s₃ : State} {outer : List Open} {members : List (String × Json)} {name : String} {v : Json}
  {c : Char} {cs rest text text' blanks : List Char} {t : Token}

/-! ## One token after another -/

theorem spaces_nil : Spaces [] := nofun

theorem readFrom_spaces (blank : Spaces blanks) : readFrom s (blanks ++ cs) = readFrom s cs := by
  induction blanks with
  | nil => rfl
  | cons c blanks ih =>
    obtain ⟨space, others⟩ := List.forall_mem_cons.1 blank
    rw [List.cons_append, readFrom, tokens?_of_isSpace space, ← readFrom, ih others]

theorem readFrom_of_token? (read : token? cs = some (t, rest)) (next : step s t = some s') :
    readFrom s cs = readFrom s' rest := by
  rw [readFrom, tokens?_of_token? read, readFrom]
  cases tokens? rest with
  | none => rfl
  | some ts =>
    change (t :: ts).foldlM step s = ts.foldlM step s'
    rw [List.foldlM_cons, next]
    rfl

theorem delimited_nil : Delimited [] :=
  ⟨nofun, nofun, nofun, nofun⟩

theorem delimited_cons (other : c.isDigit = false ∧ c ≠ '.' ∧ c ≠ 'e' ∧ c ≠ 'E') : Delimited (c :: cs) := by
  obtain ⟨digit, point, lower, upper⟩ := other
  refine ⟨?_, by simpa, by simpa, by simpa⟩
  rintro _ ⟨⟩
  exact digit

theorem delimited_of_isSpace (space : isSpace c = true) : Delimited (c :: cs) := by
  rcases isSpace_iff.1 space with rfl | rfl | rfl | rfl <;> exact delimited_cons (by decide)

theorem delimited_spaces (blank : Spaces blanks) (ends : Delimited rest) : Delimited (blanks ++ rest) := by
  cases blanks with
  | nil => exact ends
  | cons c blanks => exact delimited_of_isSpace (blank c List.mem_cons_self)

namespace Mark

theorem of_taken (taken : ∀ rest, token? (c :: rest) = some (t, rest))
    (other : c.isDigit = false ∧ c ≠ '.' ∧ c ≠ 'e' ∧ c ≠ 'E') : Mark c t :=
  ⟨taken, fun _ => delimited_cons other⟩

theorem openArray : Mark '[' .openArray := of_taken (fun _ => rfl) (by decide)

theorem closeArray : Mark ']' .closeArray := of_taken (fun _ => rfl) (by decide)

theorem openObject : Mark '\x7b' .openObject := of_taken (fun _ => rfl) (by decide)

theorem closeObject : Mark '\x7d' .closeObject := of_taken (fun _ => rfl) (by decide)

theorem comma : Mark ',' .comma := of_taken (fun _ => rfl) (by decide)

theorem colon : Mark ':' .colon := of_taken (fun _ => rfl) (by decide)

end Mark

/-! ## One text after another -/

namespace Leads

theorem refl : Leads s [] s := fun _ _ => rfl

theorem spaces_append (h : Leads s text s') (blank : Spaces blanks) : Leads s (blanks ++ text) s' := by
  intro rest ends
  rw [List.append_assoc, readFrom_spaces blank]
  exact h rest ends

theorem append_spaces (h : Leads s text s') (blank : Spaces blanks) : Leads s (text ++ blanks) s' := by
  intro rest ends
  rw [List.append_assoc, h _ (delimited_spaces blank ends), readFrom_spaces blank]

/-- A text goes on with a mark and another text. -/
theorem mark (h : Leads s text s') (mark : Mark c t) (next : step s' t = some s'')
    (h' : Leads s'' text' s₃) : Leads s (text ++ c :: text') s₃ := by
  intro rest ends
  rw [List.append_assoc, List.cons_append, h _ (mark.apart _), readFrom_of_token? (mark.taken _) next]
  exact h' rest ends

end Leads

/-! ## Documents -/

theorem expects_value : Expects (.value outer) outer :=
  fun _ _ => rfl

theorem expects_firstItem : Expects (.firstItem outer) (.array [] :: outer) := by
  intro t other
  cases t <;> first | rfl | exact (other rfl).elim

theorem expectsKey_firstKey : ExpectsKey (.firstKey outer) [] outer :=
  fun _ => rfl

theorem expectsKey_key : ExpectsKey (.key members outer) members outer :=
  fun _ => rfl

theorem Spells.reads (h : Spells text v) : Reads text v := by
  intro s outer expects rest ends
  exact readFrom_of_token? (h.token?_append ends) (expects _ nofun)

theorem Reads.spaces_append (h : Reads text v) (blank : Spaces blanks) : Reads (blanks ++ text) v :=
  fun s outer expects => (h s outer expects).spaces_append blank

theorem spells_stringText {t : String} : Spells (stringText t).toList (.text t) := by
  have spells := Spells.text (@spelled_charText t.toList)
  rw [String.ofList_toList] at spells
  rw [stringText, String.toList_ofList]
  exact spells

/-- A member is its name, a colon and its value. -/
theorem Reads.member (h : Reads text v) :
    ReadsMember ((stringText name).toList ++ ':' :: text) (name, v) := by
  intro s members outer expects
  have key : Leads s (stringText name).toList (.colon members name outer) :=
    fun rest ends => readFrom_of_token? (spells_stringText.token?_append ends) (expects name)
  exact key.mark .colon rfl (h _ _ expects_value)

theorem toList_commaSeparated {first second : String} {others : List String} :
    (commaSeparated (first :: second :: others)).toList =
      first.toList ++ ',' :: (commaSeparated (second :: others)).toList := by
  simp [commaSeparated]

/-- Parts with commas between them are read one after another, `P` before each of them and `Q` behind it telling
which ones have been read, the last one first. -/
theorem leads_parts {α : Type} {R : List Char → α → Prop} {P Q : State → List α → Prop}
    (part : ∀ {s text x xs}, P s xs → R text x → ∃ s', Q s' (x :: xs) ∧ Leads s text s')
    (next : ∀ {s xs}, Q s xs → ∃ s', P s' xs ∧ step s .comma = some s') {texts : List String} {xs ys : List α}
    (all : List.Forall₂ (fun text x => R text.toList x) texts xs) (nonempty : texts ≠ []) (before : P s ys) :
    ∃ s', Q s' (xs.reverse ++ ys) ∧ Leads s (commaSeparated texts).toList s' := by
  induction all generalizing s ys with
  | nil => exact (nonempty rfl).elim
  | cons reads all ih =>
    obtain ⟨s₁, behind, here⟩ := part before reads
    cases all with
    | nil => exact ⟨s₁, behind, here⟩
    | cons =>
      obtain ⟨s₂, before', comma⟩ := next behind
      obtain ⟨s₃, behind', later⟩ := ih (List.cons_ne_nil _ _) before'
      rw [toList_commaSeparated, List.reverse_cons, List.append_assoc, List.singleton_append]
      exact ⟨s₃, behind', here.mark .comma comma later⟩

theorem leads_items {texts : List String} {vs items : List Json}
    (all : List.Forall₂ (fun text v => Reads text.toList v) texts vs) (nonempty : texts ≠ [])
    (expects : Expects s (.array items :: outer)) :
    Leads s (commaSeparated texts).toList (.after (.array (vs.reverse ++ items)) outer) := by
  obtain ⟨_, rfl, leads⟩ := @leads_parts s Json Reads (fun s items => Expects s (.array items :: outer))
    (fun s items => s = .after (.array items) outer)
    (fun expects reads => ⟨_, rfl, reads _ _ expects⟩)
    (by
      rintro _ items rfl
      exact ⟨_, expects_value, rfl⟩)
    _ _ _ all nonempty expects
  exact leads

theorem leads_members {texts : List String} {ms members : List (String × Json)}
    (all : List.Forall₂ (fun text m => ReadsMember text.toList m) texts ms) (nonempty : texts ≠ [])
    (expects : ExpectsKey s members outer) :
    ∃ name, Leads s (commaSeparated texts).toList (.after (.object (ms.reverse ++ members) name) outer) := by
  obtain ⟨_, ⟨name, rfl⟩, leads⟩ := @leads_parts s _ ReadsMember (fun s members => ExpectsKey s members outer)
    (fun s members => ∃ name, s = .after (.object members name) outer)
    (fun expects reads => ⟨_, ⟨_, rfl⟩, reads _ _ _ expects⟩)
    (by
      rintro _ members ⟨name, rfl⟩
      exact ⟨_, expectsKey_key, rfl⟩)
    _ _ _ all nonempty expects
  exact ⟨name, leads⟩

/-- An array is its items, with commas between them, in brackets. -/
theorem Reads.array {texts : List String} {vs : List Json}
    (all : List.Forall₂ (fun text v => Reads text.toList v) texts vs) (blank : Spaces blanks) :
    Reads ('[' :: ((commaSeparated texts).toList ++ blanks ++ [']'])) (.array vs) := by
  intro s outer expects
  refine Leads.refl.mark .openArray (expects _ nofun) ?_
  cases all with
  | nil => exact (Leads.refl.append_spaces blank).mark .closeArray rfl .refl
  | cons first others =>
    have items := leads_items (.cons first others) (List.cons_ne_nil _ _) (@expects_firstItem outer)
    rw [List.append_nil] at items
    refine (items.append_spaces blank).mark .closeArray ?_ .refl
    rw [step, List.reverse_reverse]

theorem Reads.object {texts : List String} {ms : List (String × Json)}
    (all : List.Forall₂ (fun text m => ReadsMember text.toList m) texts ms) (blank : Spaces blanks) :
    Reads ('\x7b' :: ((commaSeparated texts).toList ++ blanks ++ ['\x7d'])) (.object ms) := by
  intro s outer expects
  refine Leads.refl.mark .openObject (expects _ nofun) ?_
  cases all with
  | nil => exact (Leads.refl.append_spaces blank).mark .closeObject rfl .refl
  | cons first others =>
    obtain ⟨name, members⟩ :=
      leads_members (.cons first others) (List.cons_ne_nil _ _) (@expectsKey_firstKey outer)
    rw [List.append_nil] at members
    refine (members.append_spaces blank).mark .closeObject ?_ .refl
    rw [step, List.reverse_reverse]

/-! ## Written documents -/

theorem spells_numberText {x : Number} (finite : x.isFinite = true) :
    Spells (numberText x).toList (.number x) := by
  cases x with
  | nan => cases finite
  | infinity => cases finite
  | finite negative a =>
    rw [numberText, String.toList_ofList]
    exact .number figure_shortest finite

theorem compactItems_eq {items : List Json} : compactItems items = items.map compact := by
  induction items with
  | nil => rfl
  | cons v items ih => rw [compactItems, ih, List.map_cons]

theorem compactMembers_eq :
    compactMembers members = members.map fun m => stringText m.1 ++ ":" ++ compact m.2 := by
  induction members with
  | nil => rfl
  | cons m members ih => rw [compactMembers, ih, List.map_cons]

theorem prettyItems_eq {level : Nat} {items : List Json} :
    prettyItems level items = items.map (prettyAt level) := by
  induction items with
  | nil => rfl
  | cons v items ih => rw [prettyItems, ih, List.map_cons]

theorem prettyMembers_eq {level : Nat} :
    prettyMembers level members = members.map fun m => stringText m.1 ++ ": " ++ prettyAt level m.2 := by
  induction members with
  | nil => rfl
  | cons m members ih => rw [prettyMembers, ih, List.map_cons]

/-- What a function writes for each entry stands for it if this holds of the entries. -/
theorem forall₂_map {α : Type} {R : List Char → α → Prop} {f : α → String} {xs : List α}
    (all : ∀ x ∈ xs, R (f x).toList x) : List.Forall₂ (fun text x => R text.toList x) (xs.map f) xs := by
  rw [List.forall₂_map_left_iff, List.forall₂_same]
  exact all

/-- **What is written on one line stands for the document.** -/
theorem Plain.reads_compact (h : Plain v) : Reads (compact v).toList v := by
  induction h with
  | null => exact Spells.null.reads
  | @bool b =>
    cases b with
    | true => exact Spells.truth.reads
    | false => exact Spells.falsity.reads
  | number finite => exact (spells_numberText finite).reads
  | text => exact spells_stringText.reads
  | @array items _ ih =>
    have reads := Reads.array (forall₂_map ih) spaces_nil
    simpa [compact, compactItems_eq] using reads
  | @object members _ ih =>
    have all : ∀ m ∈ members, ReadsMember (stringText m.1 ++ ":" ++ compact m.2).toList m := by
      intro m mem
      simpa using (ih m mem).member
    have reads := Reads.object (forall₂_map all) spaces_nil
    simpa [compact, compactMembers_eq] using reads

theorem spaces_lineBreak {level : Nat} : Spaces (lineBreak level).toList := by
  intro c mem
  simp only [lineBreak, String.toList_append, String.toList_ofList, List.mem_append,
    List.mem_replicate] at mem
  rcases mem with newline | ⟨-, rfl⟩
  · obtain rfl : c = '\n' := by simpa using newline
    rfl
  · rfl

theorem toList_block {left right : String} {level : Nat} {parts : List String} (nonempty : parts ≠ []) :
    (block left right level parts).toList = left.toList ++
      ((commaSeparated (parts.map (lineBreak (level + 1) ++ ·))).toList ++ (lineBreak level).toList
        ++ right.toList) := by
  simp [block, nonempty]

theorem Reads.block {level : Nat} {parts : List String} {vs : List Json}
    (all : List.Forall₂ (fun text v => Reads text.toList v) parts vs) :
    Reads (block "[" "]" level parts).toList (.array vs) := by
  by_cases empty : parts = []
  · subst empty
    cases all
    simpa [Json.block, commaSeparated] using Reads.array .nil spaces_nil
  · rw [toList_block empty]
    refine Reads.array (List.forall₂_map_left_iff.2 (all.imp fun text v reads => ?_)) spaces_lineBreak
    rw [String.toList_append]
    exact reads.spaces_append spaces_lineBreak

theorem ReadsMember.spaces_append {m : String × Json} (h : ReadsMember text m) (blank : Spaces blanks) :
    ReadsMember (blanks ++ text) m :=
  fun s members outer expects => (h s members outer expects).spaces_append blank

theorem ReadsMember.block {level : Nat} {parts : List String} {ms : List (String × Json)}
    (all : List.Forall₂ (fun text m => ReadsMember text.toList m) parts ms) :
    Reads (Json.block "\x7b" "\x7d" level parts).toList (.object ms) := by
  by_cases empty : parts = []
  · subst empty
    cases all
    simpa [Json.block, commaSeparated] using Reads.object .nil spaces_nil
  · rw [toList_block empty]
    refine Reads.object (List.forall₂_map_left_iff.2 (all.imp fun text m reads => ?_)) spaces_lineBreak
    rw [String.toList_append]
    exact reads.spaces_append spaces_lineBreak

/-- **What is written over several lines stands for the document**, at whatever level. -/
theorem Plain.reads_prettyAt {level : Nat} (h : Plain v) : Reads (prettyAt level v).toList v := by
  induction h generalizing level with
  | null =>
    rw [prettyAt]
    exact Spells.null.reads
  | @bool b =>
    rw [prettyAt]
    cases b with
    | true => exact Spells.truth.reads
    | false => exact Spells.falsity.reads
  | number finite =>
    rw [prettyAt]
    exact (spells_numberText finite).reads
  | text =>
    rw [prettyAt]
    exact spells_stringText.reads
  | array _ ih =>
    rw [prettyAt, prettyItems_eq]
    exact Reads.block (forall₂_map fun v mem => ih v mem)
  | object _ ih =>
    rw [prettyAt, prettyMembers_eq]
    refine ReadsMember.block (forall₂_map fun m mem => ?_)
    have space : Spaces [' '] := by simp [Spaces, isSpace]
    simpa using ((ih m mem).spaces_append space).member

/-! ## The document of a text -/

theorem read?_of_reads (h : Reads cs v) : read? cs = some v := by
  have read : readFrom (.value []) cs = some (.done v) := by
    have led := h (.value []) [] expects_value [] delimited_nil
    rwa [List.append_nil] at led
  obtain ⟨ts, tokens, stepped⟩ := Option.bind_eq_some_iff.1 read
  simp [read?, tokens, stepped]

/-- **A document written on one line is read back.** -/
theorem read?_compact (plain : Plain v) : read? (compact v).toList = some v :=
  read?_of_reads plain.reads_compact

/-- **So is one written over several lines.** -/
theorem read?_pretty (plain : Plain v) : read? (pretty v).toList = some v :=
  read?_of_reads plain.reads_prettyAt

/-! ## The scalar of a text -/

theorem enclosed_close (inside : outer ≠ []) : Enclosed (close v outer) := by
  obtain ⟨inner, outer, rfl⟩ := List.exists_cons_of_ne_nil inside
  cases inner <;> trivial

theorem enclosed_close_container (container : Enclosed (.done v)) : Enclosed (close v outer) := by
  cases outer with
  | nil => exact container
  | cons inner outer => exact enclosed_close (List.cons_ne_nil _ _)

theorem enclosed_start (inside : outer ≠ []) (next : start outer t = some s) : Enclosed s := by
  cases t <;> cases next
  · trivial
  · trivial
  · exact enclosed_close inside

/-- What is read in a container is read into a container. -/
theorem Enclosed.step (h : Enclosed s) (next : step s t = some s') : Enclosed s' := by
  unfold State.step at next
  split at next
  case h_1 => exact enclosed_start h next
  case h_3 => exact enclosed_start (List.cons_ne_nil _ _) next
  case h_2 | h_4 | h_9 | h_11 =>
    cases next
    exact enclosed_close_container trivial
  case h_7 | h_8 =>
    cases next
    exact List.cons_ne_nil _ _
  case h_12 => cases next
  all_goals
    cases next
    trivial

theorem Enclosed.foldlM {ts : List Token} (h : Enclosed s) (run : ts.foldlM State.step s = some s') :
    Enclosed s' := by
  induction ts generalizing s with
  | nil =>
    cases run
    exact h
  | cons t ts ih =>
    rw [List.foldlM_cons] at run
    obtain ⟨s₁, next, run⟩ := Option.bind_eq_some_iff.1 run
    exact ih (h.step next) run

/-- A document that is no container is a single token. -/
theorem eq_singleton_of_foldlM {ts : List Token} (run : ts.foldlM step (.value []) = some (.done v))
    (scalar : ¬ Enclosed (.done v)) : ts = [.scalar v] := by
  cases ts with
  | nil => cases run
  | cons t ts =>
    rw [List.foldlM_cons] at run
    obtain ⟨s, next, run⟩ := Option.bind_eq_some_iff.1 run
    cases t <;> cases next
    · exact (scalar (Enclosed.foldlM (s := .firstItem []) trivial run)).elim
    · exact (scalar (Enclosed.foldlM (s := .firstKey []) trivial run)).elim
    · cases ts with
      | nil =>
        cases run
        rfl
      | cons => cases run

theorem isBlank_of_isSpace (space : isSpace c = true) : Text.isBlank c = true := by
  rcases isSpace_iff.1 space with rfl | rfl | rfl | rfl <;> rfl

theorem eq_nil_of_tight (tight : Text.Tight (text ++ blanks)) (blank : Spaces blanks) : blanks = [] := by
  rcases List.eq_nil_or_concat blanks with empty | ⟨others, c, rfl⟩
  · exact empty
  · have solid := tight.last c (by simp)
    rw [isBlank_of_isSpace (blank c (by simp))] at solid
    cases solid

theorem not_isSpace_of_tight (tight : Text.Tight (c :: cs)) : isSpace c ≠ true := by
  intro space
  have solid := tight.first c rfl
  rw [isBlank_of_isSpace space] at solid
  cases solid

/-- **A text without blanks around it is read as a scalar just if it spells the scalar.** -/
theorem read?_eq_some_iff (tight : Text.Tight cs) (scalar : ¬ Enclosed (.done v)) (valid : v ≠ .invalid) :
    read? cs = some v ↔ Spells cs v := by
  constructor
  · intro read
    obtain ⟨ts, tokens, read⟩ := Option.bind_eq_some_iff.1 read
    obtain ⟨s, run, ends⟩ := Option.bind_eq_some_iff.1 read
    have done : s = .done v := by
      cases s <;> cases ends
      rfl
    subst done
    rw [eq_singleton_of_foldlM run scalar] at tokens
    cases cs with
    | nil => cases tokens
    | cons c cs =>
      obtain ⟨t, rest, later, first, others, same⟩ := exists_of_tokens? (not_isSpace_of_tight tight) tokens
      cases same
      obtain ⟨text, whole, -, spells⟩ := exists_of_token? first
      rw [whole] at tight ⊢
      rw [eq_nil_of_tight tight (spaces_of_tokens? others), List.append_nil]
      exact spells v rfl valid
  · intro spells
    exact read?_of_reads spells.reads

end Formulary.Json
