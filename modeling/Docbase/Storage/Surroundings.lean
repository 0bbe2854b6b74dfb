import Docbase.Clock
import Docbase.Effect
import Docbase.Identifier
import Docbase.Journal
import Docbase.Storage.Session

/-!
# Surroundings

What operations take from outside and leave there: a supply of identifiers, a clock, the sessions
handed out and the journal.
-/

namespace Docbase

/-- The surroundings of a store. -/
structure Surroundings where
  /-- The number that the last identifier was made from. -/
  lastId : Nat := 0
  /-- The time that the clock shows next. -/
  now : Instant := 0
  /-- How far the clock goes on with every reading. -/
  tick : Instant := 0
  /-- The sessions handed out, in order. -/
  sessions : List Session := []
  /-- What has been noted. -/
  journal : Journal := []

namespace Surroundings

/-- Takes a new identifier. -/
def newId : Effect Surroundings String :=
  .ofFunction fun s => (.ok (Identifier.ofNat (s.lastId + 1)), { s with lastId := s.lastId + 1 })

/-- Reads the clock. -/
def readClock : Effect Surroundings String :=
  .ofFunction fun s => (.ok (Clock.text s.now), { s with now := s.now + s.tick })

/-- Writes an entry into the journal. -/
def log (level : Level) (component message : String) (context : Document) :
    Effect Surroundings Unit :=
  .ofFunction fun s =>
    (.ok (), { s with journal := s.journal ++ [⟨level, component, message, context⟩] })

/-- Carries out an operation that only writes into the journal. -/
def journaled {α : Type} (effect : Effect Journal α) : Effect Surroundings α :=
  effect.onPart Surroundings.journal fun s journal => { s with journal }

/-- Hands out a new session and gives its number. -/
def openSession : Effect Surroundings Nat :=
  .ofFunction fun s => (.ok s.sessions.length, { s with sessions := s.sessions ++ [{}] })

/-- Calls a session by its number. -/
def callSession (number : Nat) (call : SessionCall) : Effect Surroundings Session :=
  .ofFunction fun s =>
    match (s.sessions[number]?.getD {}).call call with
    | .ok session => (.ok session, { s with sessions := s.sessions.set number session })
    | .error cause => (.error (.session cause), s)

end Surroundings

end Docbase
