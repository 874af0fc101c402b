import Formulary.Proofs.LengthRule.Bracket

/-!
# Bracket groups by offsets

Bracket groups found on the bytes of a text. One loop looks for open brackets, one inside it for the next closing
bracket (`closing`), and a content is cut out between two offsets, which fails inside a character (`cut?`). A byte
below 128 is a character by itself and part of no other, so the loops stop at brackets only, and where they stop
there is a character boundary. `cutFrom_zero` says that no cut fails and that the contents are those that are
found character by character.
-/

namespace Formulary.LengthRule

/-- The offset of the first closing bracket from an offset on, or the end of the bytes if there is none. -/
def closing (bytes : ByteArray) (i : Nat) : Nat :=
  if h : i < bytes.size then
    if bytes[i] = ']'.toUInt8 then i else closing bytes (i + 1)
  else i
termination_by bytes.size - i

/-- The text between two offsets, if neither stands inside a character. -/
def cut? (text : String) (start stop : Nat) : Option String :=
  if h : String.Pos.Raw.IsValid text ⟨start⟩ ∧ String.Pos.Raw.IsValid text ⟨stop⟩ ∧ start ≤ stop then
    some (text.extract (text.pos ⟨start⟩ h.1) (text.pos ⟨stop⟩ h.2.1))
  else none

/-- The contents of the bracket groups from an offset on, if each of them can be cut out. -/
def cutFrom (text : String) (i : Nat) : Option (List String) :=
  if h : i < text.toByteArray.size then
    if text.toByteArray[i] = '['.toUInt8 then
      let stop := closing text.toByteArray (i + 1)
      if group : stop < text.toByteArray.size ∧ i + 1 < stop then do
        let content ← cut? text (i + 1) stop
        let contents ← cutFrom text (stop + 1)
        return content :: contents
      else cutFrom text (i + 1)
    else cutFrom text (i + 1)
  else some []
termination_by text.toByteArray.size - i
decreasing_by all_goals omega

variable {c d : Char} {cs before content rest : List Char} {contents : List (List Char)} {i j : Nat}

/-! ## Bytes of characters -/

/-- A byte below 128 is part of no character but its own. -/
theorem eq_of_mem_utf8EncodeChar (ascii : d.toNat < 128) (mem : d.toUInt8 ∈ String.utf8EncodeChar c) : c = d := by
  have code : d.toUInt8.toNat = d.toNat := by
    rw [← Char.toUInt8_val, UInt32.toNat_toUInt8]
    exact Nat.mod_eq_of_lt (Nat.lt_trans ascii (by decide))
  have byte : ∀ n, d.toUInt8 = UInt8.ofNat n → d.toNat = n % 256 := by
    rintro n same
    rw [← code, same, UInt8.toNat_ofNat']
  have same : c.toNat = d.toNat := by
    have val : c.val.toNat = c.toNat := rfl
    rw [String.utf8EncodeChar, val] at mem
    -- The bytes of a character that has several of them are 128 or more.
    grind
  exact Char.toNat_inj.1 same

theorem utf8Encode_ascii (ascii : d.toNat < 128) : [d].utf8Encode = [d.toUInt8].toByteArray := by
  have single : d.utf8Size = 1 := by
    rw [Char.utf8Size_eq_one_iff, UInt32.le_iff_toNat_le]
    exact Nat.le_of_lt_succ ascii
  rw [List.utf8Encode_singleton, String.utf8EncodeChar_eq_singleton single]
  rfl

theorem size_utf8Encode_le : before.utf8Encode.size ≤ (before ++ rest).utf8Encode.size := by
  rw [List.utf8Encode_append, ByteArray.size_append]
  exact Nat.le_add_right _ _

theorem size_utf8Encode_lt (more : rest ≠ []) : before.utf8Encode.size < (before ++ rest).utf8Encode.size := by
  rw [List.utf8Encode_append, ByteArray.size_append]
  refine Nat.lt_add_of_pos_right (Nat.pos_of_ne_zero fun empty => more ?_)
  rwa [ByteArray.size_eq_zero_iff, List.utf8Encode_eq_empty] at empty

theorem size_utf8Encode_concat (ascii : d.toNat < 128) :
    (before ++ [d]).utf8Encode.size = before.utf8Encode.size + 1 := by
  rw [List.utf8Encode_append, ByteArray.size_append, utf8Encode_ascii ascii]
  rfl

theorem getElem_utf8Encode_mem (h : i < (before ++ cs ++ rest).utf8Encode.size)
    (behind : before.utf8Encode.size ≤ i) (within : i < (before ++ cs).utf8Encode.size) :
    (before ++ cs ++ rest).utf8Encode[i] ∈ cs.flatMap String.utf8EncodeChar := by
  simp only [List.utf8Encode_append] at within ⊢
  rw [ByteArray.getElem_append_left within, ByteArray.getElem_append_right behind]
  simp only [List.utf8Encode, List.getElem_toByteArray]
  exact List.getElem_mem _

/-- The bytes of a text without a character are other bytes. -/
theorem getElem_utf8Encode_ne (ascii : d.toNat < 128) (other : d ∉ cs)
    (h : i < (before ++ cs ++ rest).utf8Encode.size) (behind : before.utf8Encode.size ≤ i)
    (within : i < (before ++ cs).utf8Encode.size) :
    (before ++ cs ++ rest).utf8Encode[i] ≠ d.toUInt8 := by
  intro same
  have mem := getElem_utf8Encode_mem h behind within
  obtain ⟨c, among, part⟩ := List.mem_flatMap.1 (same ▸ mem)
  exact other (eq_of_mem_utf8EncodeChar ascii part ▸ among)

theorem getElem_utf8Encode_eq (ascii : d.toNat < 128)
    (h : before.utf8Encode.size < (before ++ d :: rest).utf8Encode.size) :
    (before ++ d :: rest).utf8Encode[before.utf8Encode.size] = d.toUInt8 := by
  have parts : (before ++ d :: rest).utf8Encode =
      before.utf8Encode ++ ([d.toUInt8].toByteArray ++ rest.utf8Encode) := by
    rw [List.utf8Encode_append, List.utf8Encode_cons, utf8Encode_ascii ascii]
  simp only [parts]
  rw [ByteArray.getElem_append_right (Nat.le_refl _), ByteArray.getElem_append_left (by simp)]
  simp

theorem isValid_utf8Encode :
    String.Pos.Raw.IsValid (String.ofList (before ++ rest)) ⟨before.utf8Encode.size⟩ :=
  String.Pos.Raw.isValid_iff_exists_append.2 ⟨String.ofList before, String.ofList rest, String.ofList_append, rfl⟩

/-- Between the offsets behind two lists of characters there is a text to cut out. -/
theorem cut?_append (before content rest : List Char) :
    cut? (String.ofList (before ++ content ++ rest)) before.utf8Encode.size (before ++ content).utf8Encode.size =
      some (String.ofList content) := by
  have start : String.Pos.Raw.IsValid (String.ofList (before ++ content ++ rest)) ⟨before.utf8Encode.size⟩ := by
    rw [List.append_assoc]
    exact isValid_utf8Encode
  rw [cut?, dif_pos ⟨start, isValid_utf8Encode, size_utf8Encode_le⟩, Option.some_inj, ← String.toByteArray_inj,
    String.toByteArray_extract, String.toByteArray_ofList, String.toByteArray_ofList, String.offset_pos,
    String.offset_pos, List.utf8Encode_append, ByteArray.extract_append_size_left, List.utf8Encode_append,
    ByteArray.extract_append_eq_right rfl ByteArray.size_append]

/-! ## Loops over bytes -/

/-- **A loop that goes on at every byte but one below 128 goes past all characters but that one.** -/
theorem skip_of_not_mem {α : Type} {f : Nat → α} (rest : List Char) (ascii : d.toNat < 128) (other : d ∉ cs)
    (skip : ∀ i (h : i < (before ++ cs ++ rest).utf8Encode.size),
      (before ++ cs ++ rest).utf8Encode[i] ≠ d.toUInt8 → f i = f (i + 1)) :
    f before.utf8Encode.size = f (before ++ cs).utf8Encode.size := by
  have upTo : ∀ j, before.utf8Encode.size ≤ j → j ≤ (before ++ cs).utf8Encode.size →
      f before.utf8Encode.size = f j := by
    intro j le
    induction le with
    | refl => exact fun _ => rfl
    | @step j behind ih =>
      intro within
      have h : j < (before ++ cs ++ rest).utf8Encode.size := Nat.lt_of_lt_of_le within size_utf8Encode_le
      rw [ih (Nat.le_of_lt within), skip j h (getElem_utf8Encode_ne ascii other h behind within)]
  exact upTo _ size_utf8Encode_le (Nat.le_refl _)

theorem closing_append (before rest : List Char) (unclosed : ']' ∉ cs) :
    closing (before ++ cs ++ rest).utf8Encode before.utf8Encode.size =
      closing (before ++ cs ++ rest).utf8Encode (before ++ cs).utf8Encode.size := by
  refine skip_of_not_mem rest (by decide) unclosed fun i h other => ?_
  rw [closing, dif_pos h, if_neg other]

/-- The inner loop stops in front of the next closing bracket. -/
theorem closing_content (before rest : List Char) (closes : ']' ∉ content) :
    closing (before ++ content ++ ']' :: rest).utf8Encode before.utf8Encode.size =
      (before ++ content).utf8Encode.size := by
  have here : (before ++ content).utf8Encode.size < (before ++ content ++ ']' :: rest).utf8Encode.size :=
    size_utf8Encode_lt nofun
  rw [closing_append _ _ closes, closing, dif_pos here, if_pos (getElem_utf8Encode_eq (by decide) here)]

/-- Without one it stops at the end. -/
theorem closing_of_not_mem (before : List Char) (unclosed : ']' ∉ cs) :
    closing (before ++ cs).utf8Encode before.utf8Encode.size = (before ++ cs).utf8Encode.size := by
  have passed := closing_append before [] unclosed
  rw [List.append_nil] at passed
  rw [passed, closing, dif_neg (Nat.lt_irrefl _)]

theorem cutFrom_append (plain : '[' ∉ cs) :
    cutFrom (String.ofList (before ++ cs ++ rest)) before.utf8Encode.size =
      cutFrom (String.ofList (before ++ cs ++ rest)) (before ++ cs).utf8Encode.size := by
  refine skip_of_not_mem rest (by decide) plain fun i h other => ?_
  have h' : i < (String.ofList (before ++ cs ++ rest)).toByteArray.size := h
  have other' : (String.ofList (before ++ cs ++ rest)).toByteArray[i] ≠ '['.toUInt8 := other
  rw [cutFrom, dif_pos h', if_neg other']

/-- What the outer loop does at an open bracket, when the inner one stops at the offset. -/
theorem cutFrom_open (stop : closing (before ++ '[' :: rest).utf8Encode (before ++ ['[']).utf8Encode.size = j) :
    cutFrom (String.ofList (before ++ '[' :: rest)) before.utf8Encode.size =
      if j < (before ++ '[' :: rest).utf8Encode.size ∧ (before ++ ['[']).utf8Encode.size < j then do
        let content ← cut? (String.ofList (before ++ '[' :: rest)) (before ++ ['[']).utf8Encode.size j
        let contents ← cutFrom (String.ofList (before ++ '[' :: rest)) (j + 1)
        return content :: contents
      else cutFrom (String.ofList (before ++ '[' :: rest)) (before ++ ['[']).utf8Encode.size := by
  have here : before.utf8Encode.size < (String.ofList (before ++ '[' :: rest)).toByteArray.size :=
    size_utf8Encode_lt nofun
  have opens : (String.ofList (before ++ '[' :: rest)).toByteArray[before.utf8Encode.size] = '['.toUInt8 :=
    getElem_utf8Encode_eq (by decide) here
  rw [size_utf8Encode_concat (by decide)] at stop ⊢
  subst stop
  rw [cutFrom, dif_pos here, if_pos opens]
  rfl

/-- An open bracket that begins no group is passed over. -/
theorem cutFrom_open_skip (no : ∀ content rest, ¬ Bracket ('[' :: cs) content rest) :
    cutFrom (String.ofList (before ++ '[' :: cs)) before.utf8Encode.size =
      cutFrom (String.ofList (before ++ '[' :: cs)) (before ++ ['[']).utf8Encode.size := by
  by_cases closed : ']' ∈ cs
  · obtain ⟨rest, rfl⟩ := exists_eq_cons no closed
    have stop := closing_content (before ++ ['[']) rest List.not_mem_nil
    rw [List.append_nil, ← List.append_cons] at stop
    rw [cutFrom_open stop, if_neg fun group => Nat.lt_irrefl _ group.2]
  · have stop := closing_of_not_mem (before ++ ['[']) closed
    rw [← List.append_cons] at stop
    rw [cutFrom_open stop, if_neg fun group => Nat.lt_irrefl _ group.1]

/-- The content of a group is cut out, and the loop goes on behind it. -/
theorem cutFrom_bracket (here : Bracket cs content rest) (before : List Char) :
    cutFrom (String.ofList (before ++ cs)) before.utf8Encode.size =
      (cutFrom (String.ofList (before ++ cs)) (before ++ '[' :: content ++ [']']).utf8Encode.size).map
        (String.ofList content :: ·) := by
  obtain ⟨rfl, nonempty, closes⟩ := here
  have text : before ++ '[' :: (content ++ ']' :: rest) = before ++ ['['] ++ content ++ ']' :: rest := by simp
  have stop := closing_content (before ++ ['[']) rest closes
  have cut := cut?_append (before ++ ['[']) content (']' :: rest)
  have fits : (before ++ ['['] ++ content).utf8Encode.size <
      (before ++ ['['] ++ content ++ ']' :: rest).utf8Encode.size := size_utf8Encode_lt nofun
  have more : (before ++ ['[']).utf8Encode.size < (before ++ ['['] ++ content).utf8Encode.size :=
    size_utf8Encode_lt nonempty
  have behind : (before ++ '[' :: content ++ [']']).utf8Encode.size =
      (before ++ ['['] ++ content).utf8Encode.size + 1 := by
    rw [size_utf8Encode_concat (by decide), List.append_cons]
  rw [← text] at stop cut fits
  rw [List.cons_append, cutFrom_open stop, if_pos ⟨fits, more⟩, cut, behind, Option.map_eq_bind]
  rfl

/-- From the offset behind any list of characters on, the contents of the groups are cut out. -/
theorem cutFrom_of_brackets (read : Brackets cs contents) (before : List Char) :
    cutFrom (String.ofList (before ++ cs)) before.utf8Encode.size = some (contents.map String.ofList) := by
  induction read generalizing before with
  | nil =>
    rw [List.append_nil, cutFrom, dif_neg]
    · rfl
    · exact Nat.lt_irrefl _
  | @skip c cs contents no later ih =>
    have next := ih (before ++ [c])
    rw [← List.append_cons] at next
    rw [← next]
    by_cases opens : c = '['
    · subst opens
      exact cutFrom_open_skip no
    · rw [List.append_cons]
      exact cutFrom_append (by simpa using Ne.symm opens)
  | @bracket cs content rest contents here later ih =>
    have next := ih (before ++ '[' :: content ++ [']'])
    have text : before ++ '[' :: content ++ [']'] ++ rest = before ++ cs := by simp [here.text]
    rw [text] at next
    rw [cutFrom_bracket here, next]
    rfl

/-- **The loops over bytes end, no cut fails**, and the contents are those found character by character. -/
theorem cutFrom_zero (text : String) : cutFrom text 0 = some (bracketed text) := by
  have read := cutFrom_of_brackets (brackets_scan text.toList) []
  rw [List.nil_append, String.ofList_toList] at read
  exact read

end Formulary.LengthRule
