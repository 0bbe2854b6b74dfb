import Docbase.Document
import Docbase.Text.Case

/-!
# Journal

The log of what happened: entries with a level, the component that wrote them, a message and a
structured context.
-/

namespace Docbase

/-- The weight of a log entry. -/
abbrev Level := Int

namespace Level

/-- For tracing. -/
def debug : Level := 10

/-- For the record. -/
def info : Level := 20

/-- Something is amiss. -/
def warning : Level := 30

/-- Something failed. -/
def error : Level := 40

/-- Nothing works. -/
def critical : Level := 50

/-- The names of the levels that have one. -/
def names : List (String × Level) :=
  [("CRITICAL", critical), ("FATAL", critical), ("ERROR", error), ("WARN", warning),
    ("WARNING", warning), ("INFO", info), ("DEBUG", debug), ("NOTSET", 0)]

/-- The name of a level; one without a name is called by its number. -/
def name (level : Level) : String :=
  let preferred := [(critical, "CRITICAL"), (error, "ERROR"), (warning, "WARNING"),
    (info, "INFO"), (debug, "DEBUG"), (0, "NOTSET")]
  (preferred.lookup level).getD ("Level " ++ Value.intText level)

end Level

/-- A log entry. -/
structure Entry where
  /-- Its weight. -/
  level : Level
  /-- The component that wrote it. -/
  component : String
  /-- What it says. -/
  message : String
  /-- Particulars. -/
  context : Document := []

/-- The name that all loggers begin with. -/
def rootLogger : String := "docstore"

/-- The name of the logger of a component. -/
def loggerName (component : String) : String :=
  let suffix := (Text.lower component).toList.map fun c => if c == ' ' then '_' else c
  rootLogger ++ "." ++ String.ofList suffix

/-- The entries written so far, in order. -/
abbrev Journal := List Entry

end Docbase
