import Formulary.Proofs.Json.Figure
import Formulary.Proofs.Json.Quoted

/-!
# Scalars and tokens of JSON

Which text spells which scalar (`Spells`). A scalar is taken off a text just if it is spelled there
(`Spells.token?_append`, `spells_of_token?`). Every token takes a character at least, so the tokens of a text are
its first one and those of what follows (`tokens?_of_token?`).
-/

namespace Formulary.Json

/-- The text spells the scalar: a word, a number that the format has room for, or a string. -/
inductive Spells : List Char → Json → Prop where
  | null : Spells ['n', 'u', 'l', 'l'] .null
  | truth : Spells ['t', 'r', 'u', 'e'] (.bool true)
  | falsity : Spells ['f', 'a', 'l', 's', 'e'] (.bool false)
  | number {text x} (figure : Figure text x) (finite : x.isFinite = true) : Spells text (.number x)
  | text {body cs} (spelled : Spelled body cs) : Spells ('"' :: body ++ ['"']) (.text (String.ofList cs))

/-- There are only blanks in the text. -/
def Spaces (cs : List Char) : Prop :=
  ∀ c ∈ cs, isSpace c = true

variable {limit : Nat} {c : Char} {cs rest text : List Char} {x : Number} {t : Token} {ts : List Token}
  {doc : Json}

/-! ## A token -/

/-- A number begins with its sign or with a digit. -/
theorem Figure.exists_cons (h : Figure text x) :
    ∃ c cs, text = c :: cs ∧ (c = '-' ∨ c.isDigit = true) := by
  obtain ⟨ofWhole, ofPart, ofExponent, numeral⟩ := h
  rename_i negative whole fraction part exponent e n
  cases negative with
  | true => exact ⟨'-', _, rfl, .inl rfl⟩
  | false =>
    obtain ⟨d, ds, rfl⟩ := List.exists_cons_of_ne_nil ofWhole.nonempty
    exact ⟨d, _, rfl, .inr (ofWhole.decimal d List.mem_cons_self)⟩

theorem Digits.solid {ds : List Char} (h : Digits ds) : ∀ c ∈ ds, Text.isBlank c = false :=
  fun c mem => Decimal.isBlank_of_isDigit (h.decimal c mem)

/-- There is no blank in a number. -/
theorem Figure.solid (h : Figure text x) : ∀ c ∈ text, Text.isBlank c = false := by
  obtain ⟨ofWhole, ofPart, ofExponent, -⟩ := h
  rename_i negative whole fraction part exponent e n
  have sign : ∀ c ∈ Number.signText negative, Text.isBlank c = false := by
    cases negative <;> simp [Number.signText, Text.isBlank]
  have behind : ∀ c ∈ fraction, Text.isBlank c = false := by
    cases ofPart with
    | none => simp
    | point digits => exact List.forall_mem_cons.2 ⟨rfl, digits.solid⟩
  have power : ∀ c ∈ exponent, Text.isBlank c = false := by
    cases ofExponent with
    | none => simp
    | marked letter_eq power =>
      refine List.forall_mem_cons.2 ⟨by rcases letter_eq with rfl | rfl <;> rfl, ?_⟩
      cases power with
      | bare numeral => exact (digits_of_numeral numeral).solid
      | plus numeral => exact List.forall_mem_cons.2 ⟨rfl, (digits_of_numeral numeral).solid⟩
      | minus numeral => exact List.forall_mem_cons.2 ⟨rfl, (digits_of_numeral numeral).solid⟩
  intro c mem
  rw [List.mem_append, List.mem_append, List.mem_append] at mem
  rcases mem with ((mem | mem) | mem) | mem
  · exact sign c mem
  · exact ofWhole.solid c mem
  · exact behind c mem
  · exact power c mem

/-- What spells a scalar has no blanks around it. -/
theorem Spells.tight (h : Spells text doc) : Text.Tight text := by
  cases h with
  | null => exact .of_forall (by simp [Text.isBlank])
  | truth => exact .of_forall (by simp [Text.isBlank])
  | falsity => exact .of_forall (by simp [Text.isBlank])
  | number figure => exact .of_forall figure.solid
  | text =>
    constructor
    · rintro c ⟨⟩
      rfl
    · intro c ends
      rw [List.getLast?_concat] at ends
      cases ends
      rfl

/-- Where a number begins, no other token does. -/
theorem token?_of_figure (h : Figure text x) :
    token? (text ++ rest) = (number? (text ++ rest)).map fun (x, rest) => (.scalar (ofNumber x), rest) := by
  obtain ⟨c, cs, rfl, begins⟩ := h.exists_cons
  have apart : ∀ d, d ≠ '-' → d.isDigit = false → c ≠ d := by
    rintro d other noDigit rfl
    rcases begins with rfl | digit
    · exact other rfl
    · rw [noDigit] at digit
      cases digit
  rw [List.cons_append, token?]
  all_goals
    intro _ same
    obtain ⟨first, -⟩ := List.cons.inj same
    exact apart _ (by decide) rfl first

/-- **A scalar is taken off where it is spelled**, if what follows does not go on with a number. -/
theorem Spells.token?_append (h : Spells text doc) (ends : Delimited rest) :
    token? (text ++ rest) = some (.scalar doc, rest) := by
  cases h with
  | null => rfl
  | truth => rfl
  | falsity => rfl
  | number figure finite =>
    simp [token?_of_figure figure, figure.number?_append ends, ofNumber, finite]
  | @text body cs spelled =>
    obtain ⟨units, read, joined⟩ := spelled.exists_units
    have taken : stringUnits? (body ++ '"' :: rest) = some (units, rest) :=
      stringUnits?_eq_some.2 ⟨body, rfl, read⟩
    simp [token?, taken, ofUnits, joined]

theorem spells_of_units {body : List Char} {units : List StringUnit} (ofBody : Units body units)
    (valid : ofUnits units ≠ .invalid) : Spells ('"' :: body ++ ['"']) (ofUnits units) := by
  cases joined : pairUnits? units with
  | none => exact (valid (by rw [ofUnits, joined])).elim
  | some cs =>
    rw [ofUnits, joined]
    exact .text (spelled_of_units ofBody joined)

theorem spells_of_figure (figure : Figure text x) (valid : ofNumber x ≠ .invalid) :
    Spells text (ofNumber x) := by
  by_cases finite : x.isFinite = true
  · rw [ofNumber, if_pos finite]
    exact .number figure finite
  · exact (valid (by rw [ofNumber, if_neg finite])).elim

/-- **A token takes something off the text**, and a scalar that denotes something is spelled there. -/
theorem exists_of_token? (read : token? cs = some (t, rest)) :
    ∃ text, cs = text ++ rest ∧ text ≠ [] ∧ ∀ doc, t = .scalar doc → doc ≠ .invalid → Spells text doc := by
  unfold token? at read
  split at read
  case h_7 =>
    obtain ⟨⟨units, rest⟩, quoted, same⟩ := Option.map_eq_some_iff.1 read
    obtain ⟨body, rfl, ofBody⟩ := stringUnits?_eq_some.1 quoted
    cases same
    refine ⟨'"' :: body ++ ['"'], by simp, by simp, ?_⟩
    rintro doc ⟨⟩ valid
    exact spells_of_units ofBody valid
  case h_8 =>
    cases read
    refine ⟨['n', 'u', 'l', 'l'], rfl, by simp, ?_⟩
    rintro doc ⟨⟩ -
    exact .null
  case h_9 =>
    cases read
    refine ⟨['t', 'r', 'u', 'e'], rfl, by simp, ?_⟩
    rintro doc ⟨⟩ -
    exact .truth
  case h_10 =>
    cases read
    refine ⟨['f', 'a', 'l', 's', 'e'], rfl, by simp, ?_⟩
    rintro doc ⟨⟩ -
    exact .falsity
  case h_11 =>
    obtain ⟨⟨x, rest⟩, number, same⟩ := Option.map_eq_some_iff.1 read
    obtain ⟨text, rfl, figure⟩ := figure_of_number? number
    cases same
    obtain ⟨c, behind, begins, -⟩ := figure.exists_cons
    refine ⟨text, rfl, by simp [begins], ?_⟩
    rintro doc ⟨⟩ valid
    exact spells_of_figure figure valid
  -- the marks
  all_goals
    cases read
    exact ⟨[_], rfl, List.cons_ne_nil _ _, nofun⟩

/-! ## The tokens of a text -/

theorem isSpace_iff : isSpace c = true ↔ c = ' ' ∨ c = '\n' ∨ c = '\t' ∨ c = '\r' := by
  simp [isSpace, or_assoc]

theorem token?_of_isSpace (space : isSpace c = true) : token? (c :: cs) = none := by
  rcases isSpace_iff.1 space with rfl | rfl | rfl | rfl <;> rfl

theorem length_of_token? (read : token? cs = some (t, rest)) : rest.length < cs.length := by
  obtain ⟨text, rfl, nonempty, -⟩ := exists_of_token? read
  have pos : 0 < text.length := List.length_pos_of_ne_nil nonempty
  rw [List.length_append]
  omega

/-- The limit does not matter if the text is no longer. -/
theorem tokensWithin?_eq {limit' : Nat} (within : cs.length ≤ limit) (within' : cs.length ≤ limit') :
    tokensWithin? limit cs = tokensWithin? limit' cs := by
  induction limit generalizing cs limit' with
  | zero =>
    rw [List.length_eq_zero_iff.1 (Nat.le_zero.1 within)]
    cases limit' <;> rfl
  | succ limit ih =>
    cases cs with
    | nil => cases limit' <;> rfl
    | cons c cs =>
      rw [List.length_cons] at within within'
      obtain ⟨limit', rfl⟩ : ∃ k, limit' = k + 1 := ⟨limit' - 1, by omega⟩
      have afterBlank : tokensWithin? limit cs = tokensWithin? limit' cs := ih (by omega) (by omega)
      simp only [tokensWithin?]
      rw [afterBlank]
      cases first : token? (c :: cs) with
      | none => rfl
      | some read =>
        obtain ⟨t, rest⟩ := read
        have shorter := length_of_token? first
        rw [List.length_cons] at shorter
        have afterToken : tokensWithin? limit rest = tokensWithin? limit' rest :=
          ih (by omega) (by omega)
        simp only [Option.bind_eq_bind, Option.bind_some, afterToken]

theorem tokens?_of_isSpace (space : isSpace c = true) : tokens? (c :: cs) = tokens? cs := by
  rw [tokens?, List.length_cons, tokensWithin?, if_pos space, tokens?]

/-- **The tokens of a text are its first one and those of what follows.** -/
theorem tokens?_cons (solid : isSpace c ≠ true) :
    tokens? (c :: cs) = (token? (c :: cs)).bind fun (t, rest) => (tokens? rest).map (t :: ·) := by
  rw [tokens?, List.length_cons, tokensWithin?, if_neg solid]
  cases first : token? (c :: cs) with
  | none => rfl
  | some read =>
    obtain ⟨t, rest⟩ := read
    have shorter : rest.length < cs.length + 1 := length_of_token? first
    have same : tokensWithin? cs.length rest = tokens? rest :=
      tokensWithin?_eq (Nat.le_of_lt_succ shorter) (Nat.le_refl _)
    simp only [Option.bind_eq_bind, Option.bind_some, same]
    cases tokens? rest <;> rfl

theorem tokens?_of_token? (read : token? cs = some (t, rest)) :
    tokens? cs = (tokens? rest).map (t :: ·) := by
  cases cs with
  | nil => cases read
  | cons c cs =>
    have solid : isSpace c ≠ true := by
      intro space
      rw [token?_of_isSpace space] at read
      cases read
    rw [tokens?_cons solid, read, Option.bind_some]

theorem exists_of_tokens? (solid : isSpace c ≠ true) (read : tokens? (c :: cs) = some ts) :
    ∃ t rest later, token? (c :: cs) = some (t, rest) ∧ tokens? rest = some later ∧ ts = t :: later := by
  rw [tokens?_cons solid] at read
  obtain ⟨⟨t, rest⟩, first, read⟩ := Option.bind_eq_some_iff.1 read
  obtain ⟨later, others, rfl⟩ := Option.map_eq_some_iff.1 read
  exact ⟨t, rest, later, first, others, rfl⟩

/-- A text without tokens is blank. -/
theorem spaces_of_tokens? (tokenless : tokens? cs = some []) : Spaces cs := by
  induction cs with
  | nil => exact nofun
  | cons c cs ih =>
    by_cases space : isSpace c = true
    · rw [tokens?_of_isSpace space] at tokenless
      exact List.forall_mem_cons.2 ⟨space, ih tokenless⟩
    · obtain ⟨t, rest, later, -, -, same⟩ := exists_of_tokens? space tokenless
      cases same

end Formulary.Json
