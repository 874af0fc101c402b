import Formulary.Definition.Document
import Formulary.Files.Tree
import Formulary.Toml.Reader
import Formulary.Yaml.Schema

/-!
# Definitions in files

A form is asked for by the name of its file, which may lack its extension. `FormDefinition.find`
says which file is meant and `FormDefinition.load` reads it, in the format its extension names; a
file with another extension or none is read as JSON or, failing that, as YAML.
-/

namespace Formulary

/-- A format for documents. -/
inductive DocumentFormat where
  | json
  | yaml
  | toml
deriving DecidableEq, Repr

namespace DocumentFormat

/-- The name of the format. -/
def name : DocumentFormat → String
  | .json => "JSON"
  | .yaml => "YAML"
  | .toml => "TOML"

/-- The format of files with an extension. -/
def ofExtension? : String → Option DocumentFormat
  | "json" => some .json
  | "yaml" => some .yaml
  | "yml" => some .yaml
  | "toml" => some .toml
  | _ => none

end DocumentFormat

/-- Why the definition in a file cannot be had. -/
inductive FileError where
  | notFound (path : String)
  /-- There is no file, or one that holds no text. -/
  | unreadable
  /-- The text is no definition in the format. -/
  | malformed (format : DocumentFormat)
deriving DecidableEq, Repr

namespace FileError

/-- The error in words. -/
def message : FileError → String
  | .notFound path => "file not found: " ++ path
  | .unreadable => "failed to read file"
  | .malformed format => "failed to parse " ++ format.name

end FileError

namespace FormDefinition

/-- The definition a JSON text denotes, as far as a reader tells. -/
def parseJson? (read : Json.Reader) (text : String) : Option FormDefinition :=
  (read text.toList).bind Json.view.form?

/-- The definition a text denotes in a format. -/
def parse? (format : DocumentFormat) (text : String) : Option FormDefinition :=
  match format with
  | .json => parseJson? Json.read? text
  | .yaml => (Yaml.read? text.toList).bind Yaml.Node.view.form?
  | .toml => (Toml.read? text.toList).bind Toml.view.form?

/-- The definition a text denotes in a format. -/
def parse (format : DocumentFormat) (text : String) : Except FileError FormDefinition :=
  match parse? format text with
  | some d => .ok d
  | none => .error (.malformed format)

/-- The definition a text denotes in the format its file's extension names. -/
def parseNamed (path text : String) : Except FileError FormDefinition :=
  match (Path.extension? path).bind DocumentFormat.ofExtension? with
  | some format => parse format text
  | none =>
    match parse? .json text with
    | some d => .ok d
    | none => parse .yaml text

/-- Reads the definition in a file. -/
def load (w : Workspace) (path : String) : Except FileError FormDefinition :=
  match w.look path with
  | .text s => parseNamed path s
  | _ => .error .unreadable

/-- The endings a name may lack, in order of preference. -/
def endings : List String :=
  [".form.json", ".form.yaml", ".form.yml", ".form.toml", ".json", ".yaml", ".yml", ".toml"]

/-- The paths a name may mean in a directory, in order of preference. -/
def candidates (directory name : String) : List String :=
  Path.join directory name :: endings.map fun ending => Path.join directory (name ++ ending)

/-- The file a name means. -/
def find (w : Workspace) (name : String) : Except FileError String :=
  match (candidates w.directory name).find? w.isFile with
  | some path => .ok path
  | none => .error (.notFound name)

end FormDefinition

end Formulary
