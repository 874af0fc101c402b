import Formulary.Files.Tree
import Formulary.Settings.Variables

/-!
# Where settings come from

There are three layers over the defaults: the file `formlogic.toml` of the working directory, its
file `formlogic.yaml`, and the environment variables. A file named explicitly takes the place of the
two files and has to exist.
-/

namespace Formulary

namespace Settings

/-- The layer of a file. What is no file says nothing. -/
def fileLayer? (read? : String → Option Layer) : FileEntry → Option Layer
  | .text s => read? s
  | .binary => none
  | _ => some []

/-- The reader for files with an extension. -/
def reader? : Option String → Option (String → Option Layer)
  | some "toml" => some Layer.ofToml?
  | some "yaml" => some Layer.ofYaml?
  | some "yml" => some Layer.ofYaml?
  | _ => none

/-- The layer of a file named explicitly. -/
def explicitLayer (w : Workspace) (path : String) : Except SettingsError Layer :=
  if w.look path = .missing then .error (.notFound path)
  else match reader? (Path.extension? path) with
    | none => .error (.unsupportedFormat path)
    | some read? =>
      match fileLayer? read? (w.look path) with
      | some l => .ok l
      | none => .error .inconsistent

/-- The files looked up in a directory, the later over the earlier one. -/
def standardFiles (directory : String) : String × String :=
  (Path.join directory "formlogic.toml", Path.join directory "formlogic.yaml")

/-- The paths at which settings are looked for. -/
def paths (directory : String) : Option String → List String
  | some path => [path]
  | none => [(standardFiles directory).1, (standardFiles directory).2]

/-- The layer of the files looked up in the working directory. -/
def standardLayer (w : Workspace) : Except SettingsError Layer :=
  let (toml, yaml) := standardFiles w.directory
  match fileLayer? Layer.ofToml? (w.look toml), fileLayer? Layer.ofYaml? (w.look yaml) with
  | some first, some second => .ok (Layer.overlay second first)
  | _, _ => .error .inconsistent

/-- Resolves the settings for a working directory. -/
def load (w : Workspace) (vs : Variables) (explicit : Option String) :
    Except SettingsError Settings := do
  let files ← match explicit with
    | some path => explicitLayer w path
    | none => standardLayer w
  (Layer.overlay (Layer.ofVariables vs) files).settings

end Settings

end Formulary
