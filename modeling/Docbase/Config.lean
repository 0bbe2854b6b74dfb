import Docbase.Schema.Summary
import Docbase.Validation

/-!
# Settings

How a store is to be set up: the database it opens, and the kind of backend that holds it. They
are read from an object, in which settings from the environment take precedence.
-/

namespace Docbase

/-- The kinds of backends. -/
inductive BackendKind where
  /-- In memory. -/
  | memory
  /-- In a file. -/
  | sqlite
  deriving DecidableEq, Repr

namespace BackendKind

/-- The name of a kind. -/
def name : BackendKind → String
  | memory => "memory"
  | sqlite => "sqlite"

/-- The kind of a name. -/
def ofName? (name : String) : Option BackendKind :=
  [("memory", memory), ("sqlite", sqlite)].lookup name

end BackendKind

/-- The settings of a backend. -/
structure BackendConfig where
  /-- Its kind. -/
  kind : BackendKind := .memory
  /-- The directory of its files. -/
  dataDir : String := "./.docstore-data"
  /-- The name of the database. -/
  database : Option String := none

/-- The settings of a store. -/
structure StoreConfig where
  /-- The address of the database. -/
  uri : Option String := none
  /-- The name of the database. -/
  database : String := "docstore"
  /-- Whether it is held in memory whatever the backend says. -/
  inMemory : Bool := false
  /-- The backend. -/
  backend : Option BackendConfig := none
  /-- The least level of what is logged. -/
  logLevel : String := "INFO"

namespace BackendConfig

open Validated

/-- Reads the settings of a backend. -/
def read (fields : Document) : Validated BackendConfig :=
  .ok BackendConfig.mk
    |> plus (part fields ["type"] .memory (choice BackendKind.ofName?))
    |> plus (part fields ["data_dir"] "./.docstore-data" text)
    |> plus (part fields ["database"] none (optional text))

/-- The settings of a backend as a value. -/
def toValue (config : BackendConfig) : Value :=
  .object [("type", .text config.kind.name), ("data_dir", .text config.dataDir),
    ("database", .ofText? config.database)]

end BackendConfig

namespace StoreConfig

open Validated

/-- Reads the settings of a store. -/
def read (fields : Document) : Validated StoreConfig :=
  .ok StoreConfig.mk
    |> plus (part fields ["uri"] none (optional text))
    |> plus (part fields ["database"] "docstore" text)
    |> plus (part fields ["in_memory"] false bool)
    |> plus (part fields ["backend"] none (optional (record BackendConfig.read)))
    |> plus (part fields ["log_level"] "INFO" text)

/-- The backend that the settings ask for. -/
def resolved (config : StoreConfig) : BackendConfig :=
  if config.inMemory then { database := some config.database }
  else match config.backend with
    | some backend =>
      if backend.database.isNone then { backend with database := some config.database }
      else backend
    | none => { kind := .sqlite, database := some config.database }

/-- The settings of a store as a value. -/
def toValue (config : StoreConfig) : Value :=
  .object [("uri", .ofText? config.uri), ("database", .text config.database),
    ("in_memory", .bool config.inMemory),
    ("backend", (config.backend.map BackendConfig.toValue).getD .null),
    ("log_level", .text config.logLevel)]

/-- What the environment says about a store. -/
structure Environment where
  /-- The database to use, unless empty. -/
  database : String := ""
  /-- The kind of backend to use, unless empty. -/
  backend : String := ""

/-- Puts what the environment says in place of what an object of settings says. -/
def override (environment : Environment) (settings : Document) : Except Fault Document := do
  let settings := if environment.database = "" then settings
    else Keyed.put settings "database" (.text environment.database)
  if environment.backend = "" then return settings
  let given := Document.get settings "backend"
  let backend ← if given.isTruthy then Document.ofValue given else pure []
  return Keyed.put settings "backend"
    (.object (Keyed.put backend "type" (.text environment.backend)))

/-- The settings under `store` in the object of a settings file. -/
def section? (file : Document) : Except Fault Document :=
  match Keyed.get? file "store" with
  | some value => Document.ofValue value
  | none => .ok []

end StoreConfig

/-- Ways of making backends: for the kinds that have one, what the name of the database is put
after; the kinds without one fall back to memory. -/
abbrev Factories := List (BackendKind × Option String)

namespace Factories

/-- The ways that are there from the beginning. -/
def standard : Factories :=
  [(.memory, none)]

/-- Adds a way of making backends of a kind, which replaces any earlier one. -/
def register (factories : Factories) (kind : BackendKind) (label : String) : Factories :=
  (kind, some label) :: factories

/-- The name that a backend is given by a way of making it. -/
def databaseName (label : Option String) (config : BackendConfig) : String :=
  match label with
  | some label => label ++ ":" ++ config.database.getD "None"
  | none => (Relation.nonempty? config.database).getD "docstore"

/-- The name of the database of a new backend, and whether its kind was available. -/
def make (factories : Factories) (config : BackendConfig) : String × Bool :=
  match factories.lookup config.kind with
  | some label => (databaseName label config, true)
  | none => (databaseName ((factories.lookup .memory).getD none) config, false)

/-- The note about a kind of backend that is not available. -/
def unavailable (kind : BackendKind) : String :=
  "Backend '" ++ kind.name ++ "' is not available, falling back to in-memory storage"

end Factories

end Docbase
