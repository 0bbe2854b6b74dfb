import Docbase.Config
import Docbase.Files
import Docbase.Toml.Reader

/-!
# Settings from files

The settings of a store as a settings file and the environment give them, and the version of the
library as a project file or an installation gives it.
-/

namespace Docbase

/-- Why settings cannot be loaded. -/
inductive ConfigFault where
  /-- The path leads to a directory. -/
  | directory
  /-- The file is malformed. -/
  | malformed
  /-- A part of the file is of a type that cannot be used. -/
  | unusable (fault : Fault)
  /-- The settings are not what they should be. -/
  | invalid (violations : List Violation)

/-- The kind of a fault, as callers see it. -/
def ConfigFault.kind : ConfigFault → String
  | directory => "IsADirectoryError"
  | malformed => "TOMLDecodeError"
  | unusable fault => fault.kind
  | invalid _ => "ValidationError"

/-- The object that a TOML text writes. -/
def readToml (text : String) : Except ConfigFault Document :=
  match Toml.read? text with
  | some table => .ok table
  | none => .error .malformed

namespace StoreConfig

/-- The object of the settings in a file, which may be missing. -/
def sectionOf (files : Files) (path : Option String) : Except ConfigFault Document :=
  match path.map files.find with
  | none => .ok []
  | some .nothing => .ok []
  | some .blocked => .ok []
  | some .directory => .error .directory
  | some (.file text) => do
    (section? (← readToml text)).mapError .unusable

/-- Loads the settings of a store from a file and the environment, which goes first. -/
def load (files : Files) (path : Option String) (environment : Environment) :
    Except ConfigFault StoreConfig := do
  let settings ← sectionOf files path
  let settings ← (override environment settings).mapError .unusable
  (read settings).mapError .invalid

end StoreConfig

namespace Version

/-- The name that a project file has to give. -/
def distribution : String := "docstore"

/-- The version when none is known. -/
def unknown : String := "0.0.0"

/-- The version that a project file states, if it is the file of this library. -/
def stated? (file : String) : Except ConfigFault (Option String) := do
  match Keyed.get? (← readToml file) "project" with
  | none => return none
  | some (.object project) =>
    if (Document.get project "name") == .text distribution then
      return (Keyed.get? project "version").map Value.shown
    else return none
  | some _ => throw (.unusable .missingPart)

/-- The version: the one that the project file states, else that of the installation. -/
def find (projectFile installed : Option String) : Except ConfigFault String := do
  let stated ← match projectFile with
    | some file => stated? file
    | none => pure none
  return (stated.or installed).getD unknown

end Version

end Docbase
