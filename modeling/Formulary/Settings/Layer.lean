import Formulary.NameMap
import Formulary.Settings.Basic
import Formulary.Toml.Reader
import Formulary.Yaml.Schema

/-!
# Layers of settings

Settings are resolved in layers: what a later layer says under a key replaces what an earlier one
says, except that two tables are joined key by key. Only the values that remain have to be of the
kind their keys ask for, so a later layer can mend an earlier one. Keys without a meaning are
skipped.
-/

namespace Formulary

/-- What a layer says under a key. -/
inductive Setting where
  | nothing
  /-- A natural number below `2^64`. -/
  | whole (n : Nat)
  | text (s : String)
  /-- Further keys, in order. -/
  | table (entries : List (String × Setting))
  /-- A value no key asks for. -/
  | other
deriving Inhabited

/-- A layer: what it says under its keys, in the order of keys. -/
abbrev Layer := List (String × Setting)

namespace Setting

/-- The setting of an integer. -/
def ofInt (n : Int) : Setting :=
  if 0 ≤ n ∧ n < UInt64.size then .whole n.toNat else .other

/-- The setting of a table; of two entries with the same key the later counts. -/
def ofEntries (entries : List (String × Setting)) : Setting :=
  .table (NameMap.ofList entries).entries

/-- The setting under a key. -/
def find? (key : String) (entries : List (String × Setting)) : Option Setting :=
  (entries.find? (·.1 == key)).map (·.2)

mutual

/-- A later setting over an earlier one. -/
def overlay : (later earlier : Setting) → Setting
  | .table later, .table earlier => .table (overlayEntries later earlier)
  | later, _ => later

/-- Later entries over earlier ones. -/
def overlayEntries : (later earlier : List (String × Setting)) → List (String × Setting)
  | [], earlier => earlier
  | (key, v) :: later, earlier =>
    let joined := match find? key earlier with
      | some w => overlay v w
      | none => v
    overlayEntries later (NameMap.place key joined earlier)

end

end Setting

namespace Toml

mutual

/-- What a value sets. -/
def setting : Toml → Setting
  | .string s => .text s
  | .integer n => Setting.ofInt n
  | .float _ => .other
  | .bool _ => .other
  | .datetime => .other
  | .array _ => .other
  | .tables _ => .other
  | .table _ entries => .ofEntries (settings entries)

/-- What the entries of a table set. -/
def settings : List (String × Toml) → List (String × Setting)
  | [] => []
  | (key, v) :: rest => (key, v.setting) :: settings rest

end

end Toml

namespace Yaml

namespace Plain

/-- What a scalar sets. -/
def setting : Plain → Setting
  | .null => .nothing
  | .bool _ => .other
  | .integer n => Setting.ofInt n
  | .real _ => .other
  | .text s => .text s

end Plain

namespace Node

mutual

/-- What a node sets, unless it or a node in it has a tag of its own or a key that is no scalar, or
collections are nested deeper than `room`. -/
def setting? (room : Nat) : Node → Option Setting
  | .absent => some .nothing
  | .cyclic => none
  | .scalar tag s => (denoted? tag s).map Plain.setting
  | .sequence tag items =>
    if hasOwnTag tag || room = 0 || !allSettings (room - 1) items then none else some .other
  | .mapping tag entries =>
    if hasOwnTag tag || room = 0 then none else (settings? (room - 1) entries).map .ofEntries

/-- All nodes set something. -/
def allSettings (room : Nat) : List Node → Bool
  | [] => true
  | n :: ns => (n.setting? room).isSome && allSettings room ns

/-- What the entries of a mapping set. -/
def settings? (room : Nat) : List (Node × Node) → Option (List (String × Setting))
  | [] => some []
  | (key, v) :: rest => do
    let name ← key.text?
    let setting ← v.setting? room
    let others ← settings? room rest
    return (name, setting) :: others

end

end Node

end Yaml

namespace Layer

/-- A later layer over an earlier one. -/
def overlay (later earlier : Layer) : Layer :=
  Setting.overlayEntries later earlier

/-- The layer of a list of settings; of two with the same key the later counts. -/
def ofEntries (entries : List (String × Setting)) : Layer :=
  (NameMap.ofList entries).entries

/-- The layer a TOML text denotes. -/
def ofToml? (text : String) : Option Layer :=
  (Toml.entries? text.toList).map fun entries => ofEntries (Toml.settings entries)

/-- How deep collections may be nested in the mapping of a YAML layer. -/
def maxDepth : Nat := 127

/-- The layer a YAML text denotes: a mapping, or nothing at all. -/
def ofYaml? (text : String) : Option Layer :=
  (Yaml.read? text.toList).bind fun
    | .mapping _ entries => (Yaml.Node.settings? maxDepth entries).map ofEntries
    | n => if n.isBlank then some [] else none

/-- The step limit a layer asks for. -/
def maxSteps? (l : Layer) : Option Nat :=
  match Setting.find? "max-steps" l with
  | none => some ({} : Settings).maxSteps
  | some (.whole n) => some n
  | some _ => none

/-- The relation a layer asks for: by its name, or by a table whose first key is its name and says
nothing. -/
def relation? (l : Layer) : Option Relation :=
  match Setting.find? "jump-relation" l with
  | none => some ({} : Settings).relation
  | some (.text name) => Relation.ofName? name
  | some (.table ((name, .nothing) :: _)) => Relation.ofName? name
  | some _ => none

/-- The filter a layer asks for, if any. -/
def logFilter? (l : Layer) : Option (Option String) :=
  match Setting.find? "log-filter" l with
  | none => some none
  | some .nothing => some none
  | some (.text s) => some (some s)
  | some _ => none

/-- The settings a layer asks for. -/
def settings (l : Layer) : Except SettingsError Settings :=
  match l.maxSteps?, l.relation?, l.logFilter? with
  | some maxSteps, some relation, some logFilter =>
    if maxSteps = 0 then .error .noSteps else .ok ⟨maxSteps, relation, logFilter⟩
  | _, _, _ => .error .inconsistent

end Layer

end Formulary
