import Formulary.Command.Assignment
import Formulary.Proofs.Value

/-!
# Every value can be assigned

A name that has no blanks around it and no equals sign in it is found in front of the first equals sign, whatever
blanks are around it there; and all that is behind that sign is the value as typed (`parseWith_append`). So every
value can be written there as JSON, with blanks around it, and what is not the JSON of a value is a text as it
stands, whatever reader of JSON there is (`parse_written`).
-/

namespace Formulary.Assignment

variable {read : Json.Reader} {name front behind : String}

/-- What is assigned to a name is what is typed behind it. -/
theorem parseWith_append {input : String} (nonblank : ¬ Text.Blank name.toList) (tight : Text.Tight name.toList)
    (apart : '=' ∉ name.toList) (blank : Text.Blank front.toList) (blank' : Text.Blank behind.toList) :
    parseWith read (front ++ name ++ behind ++ "=" ++ input) = .ok ⟨name, Value.ofInputWith read input⟩ := by
  have inside : '=' ∉ front.toList ++ name.toList ++ behind.toList := by
    rw [List.mem_append, List.mem_append]
    rintro ((mem | mem) | mem)
    · cases blank _ mem
    · exact apart mem
    · cases blank' _ mem
  have text : (front ++ name ++ behind ++ "=" ++ input).toList =
      front.toList ++ name.toList ++ behind.toList ++ '=' :: input.toList := by
    simp only [String.toList_append, List.append_assoc]
    rfl
  have trimmed : Text.trim (front.toList ++ name.toList ++ behind.toList) = name.toList :=
    Text.stripped_iff.1 ⟨⟨_, _, rfl, blank, blank'⟩, tight⟩
  have named : name.toList ≠ [] := fun empty => nonblank (by rw [empty]; exact nofun)
  rw [parseWith, text, Text.splitFirst?_append inside]
  simp only [trimmed, List.isEmpty_iff, named, if_false, String.ofList_toList]

/-- **Every value can be given on the command line**, wherever finite values are read as they are written and no
blanks are written around them: null, a finite number or a text is what its JSON stands for there, with whatever
blanks around it and around the name. So is the value that any other text is read as, and what is read as no value
is a text as it stands, its blanks included. -/
theorem parse_written {write : Json → String}
    (kept : ∀ v : Value, v.Finite → read (write v.toJson).toList = some v.toJson)
    (bare : ∀ v : Value, v.Finite → Text.Tight (write v.toJson).toList)
    (nonblank : ¬ Text.Blank name.toList) (tight : Text.Tight name.toList) (apart : '=' ∉ name.toList)
    (blank : Text.Blank front.toList) (blank' : Text.Blank behind.toList) :
    (∀ (v : Value) (left right : String), v.Finite → Text.Blank left.toList → Text.Blank right.toList →
      parseWith read (front ++ name ++ behind ++ "=" ++ (left ++ write v.toJson ++ right)) = .ok ⟨name, v⟩) ∧
    (∀ (v : Value) (input : String), read (Text.trim input.toList) = some v.toJson →
      parseWith read (front ++ name ++ behind ++ "=" ++ input) = .ok ⟨name, v⟩) ∧
    (∀ input : String, (∀ v : Value, read (Text.trim input.toList) ≠ some v.toJson) →
      parseWith read (front ++ name ++ behind ++ "=" ++ input) = .ok ⟨name, .text input⟩) := by
  have assigned : ∀ input : String,
      parseWith read (front ++ name ++ behind ++ "=" ++ input) = .ok ⟨name, Value.ofInputWith read input⟩ :=
    fun _ => parseWith_append nonblank tight apart blank blank'
  refine ⟨fun v left right finite blankLeft blankRight => ?_, fun v input reads => ?_, fun input unread => ?_⟩
  · have trimmed : Text.trim (left ++ write v.toJson ++ right).toList = (write v.toJson).toList := by
      rw [String.toList_append, String.toList_append]
      exact Text.stripped_iff.1 ⟨⟨_, _, rfl, blankLeft, blankRight⟩, bare v finite⟩
    have reads : read (Text.trim (left ++ write v.toJson ++ right).toList) = some v.toJson := by
      rw [trimmed]
      exact kept v finite
    rw [assigned, Value.ofInputWith_of_read reads]
  · rw [assigned, Value.ofInputWith_of_read reads]
  · rw [assigned, Value.ofInputWith_of_unread unread]

/-- The program's own reader finds a text with blanks, quotes and an equals sign, a text by its code, and a text
that is no JSON. -/
theorem parse_written_note :
    parse (" " ++ "note" ++ "\t" ++ "=" ++ (" " ++ Json.compact (.text " a=\"b\"\n") ++ "\n")) =
        .ok ⟨"note", .text " a=\"b\"\n"⟩ ∧
      parse (" " ++ "note" ++ "\t" ++ "=" ++ " \"\\u0041\"") = .ok ⟨"note", .text "A"⟩ ∧
      parse (" " ++ "note" ++ "\t" ++ "=" ++ " a=b ") = .ok ⟨"note", .text " a=b "⟩ := by
  have nonblank : ¬ Text.Blank "note".toList := by
    intro blank
    cases blank 'n' (by decide)
  have tight : Text.Tight "note".toList := .of_forall (by simp [Text.isBlank])
  have space : Text.Blank " ".toList := by simp [Text.Blank, Text.isBlank]
  have tab : Text.Blank "\t".toList := by simp [Text.Blank, Text.isBlank]
  have newline : Text.Blank "\n".toList := by simp [Text.Blank, Text.isBlank]
  have kept : ∀ v : Value, v.Finite → Json.read? (Json.compact v.toJson).toList = some v.toJson :=
    fun _ finite => Json.read?_compact (Value.plain_toJson finite)
  have bare : ∀ v : Value, v.Finite → Text.Tight (Json.compact v.toJson).toList :=
    fun _ finite => (Value.spells_compact finite).tight
  obtain ⟨written, reads, other⟩ :=
    @parse_written Json.read? "note" " " "\t" Json.compact kept bare nonblank tight (by decide) space tab
  have finite : (Value.text " a=\"b\"\n").Finite := by
    intro x same
    cases same
  refine ⟨written (.text _) " " "\n" finite space newline, reads (.text "A") _ ?_, other _ fun v found => ?_⟩
  · exact (Value.read?_eq_toJson_iff Text.tight_trim).2 (.text (.code rfl (by decide) .nil))
  · have unread : Json.read? (Text.trim " a=b ".toList) = none := by decide
    rw [unread] at found
    cases found

end Formulary.Assignment
