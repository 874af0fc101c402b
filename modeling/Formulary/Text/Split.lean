/-!
# Splitting at a separator

`segments sep cs` cuts `cs` at every `sep`, so it always has one segment more than `cs` has
separators; `words` keeps the segments that are not empty.
-/

namespace Formulary.Text

/-- Puts a character in front of the first segment. -/
def consHead (c : Char) : List (List Char) → List (List Char)
  | [] => [[c]]
  | w :: ws => (c :: w) :: ws

/-- The pieces between separators, empty ones included. -/
def segments (sep : Char) : List Char → List (List Char)
  | [] => [[]]
  | c :: cs => if c = sep then [] :: segments sep cs else consHead c (segments sep cs)

/-- The non-empty pieces between separators. -/
def words (sep : Char) (cs : List Char) : List (List Char) :=
  (segments sep cs).filter (!·.isEmpty)

/-- The text before the first separator and the text after it, if there is one. -/
def splitFirst? (sep : Char) : List Char → Option (List Char × List Char)
  | [] => none
  | c :: cs =>
    if c = sep then some ([], cs)
    else (splitFirst? sep cs).map fun (before, after) => (c :: before, after)

/-- The pieces written one after another with a separator between them. -/
def joinWith (sep : String) : List String → String
  | [] => ""
  | [s] => s
  | s :: t :: rest => s ++ sep ++ joinWith sep (t :: rest)

end Formulary.Text
