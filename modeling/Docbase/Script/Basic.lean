import Docbase.Document
import Docbase.Effect
import Docbase.Storage.Session

/-!
# Scripts

A script is a list of steps taken by a host of documents that has transactions: calls of the host,
calls of the session that a transaction was given, failures, and transactions with steps of their
own. Every step has an outcome. A fault ends the steps of a transaction unless the transaction is
told to go on; the script itself always goes on.
-/

namespace Docbase.Script

/-- A step, over the calls of a host. -/
inductive Step (ω : Type) where
  /-- A call of the host. -/
  | call (op : ω)
  /-- A call of the session that was last given to the work of a transaction. -/
  | session (call : SessionCall)
  /-- A failure of the caller's own making. -/
  | fail (kind message : String)
  /-- A transaction of steps, which may go on after a fault, and what its work returns. -/
  | transaction (steps : List (Step ω)) (goesOn : Bool) (returns : Value)

/-- What a step that did not fail answers. -/
inductive Reply where
  /-- Nothing. -/
  | nothing
  /-- A truth value. -/
  | truth (b : Bool)
  /-- A number. -/
  | number (n : Nat)
  /-- Names. -/
  | names (names : List String)
  /-- A value. -/
  | value (value : Value)
  /-- A new record. -/
  | record (doc : Document)
  /-- The state of a session. -/
  | session (session : Session)

/-- The outcome of a step. -/
inductive Outcome where
  /-- An answer. -/
  | replied (reply : Reply)
  /-- A fault. -/
  | failed (fault : Fault)
  /-- What came out of a transaction, with the outcomes of its steps. -/
  | concluded (steps : List Outcome) (result : Except Fault Value)

/-- The fault of an outcome. -/
def Outcome.fault? : Outcome → Option Fault
  | replied _ => none
  | failed fault => some fault
  | concluded _ (.ok _) => none
  | concluded _ (.error fault) => some fault

/-- A host: what it does when called, and how its transactions begin and end. -/
structure Host (σ τ ω : Type) where
  /-- Carries out a call. -/
  call : ω → Effect σ Reply
  /-- Calls a session by its number. -/
  callSession : Nat → SessionCall → Effect σ Session
  /-- Begins a transaction. -/
  begin : Effect σ τ
  /-- The number of the session of a transaction. -/
  sessionOf : τ → Nat
  /-- Brings a transaction to its end with the outcome of its work. -/
  conclude : τ → Except Fault Value → Effect σ Value

/-- How far a script has come. -/
structure Progress (σ : Type) where
  /-- The state of the host. -/
  state : σ
  /-- The session that was last given to the work of a transaction. -/
  session : Option Nat := none
  /-- The outcomes of the steps taken so far. -/
  outcomes : List Outcome := []

section

variable {σ τ ω α : Type}

/-- Carries out an operation of the host. -/
def inside (effect : Effect σ α) : Effect (Progress σ) α :=
  effect.onPart Progress.state fun progress state => { progress with state }

/-- Begins a list of outcomes, and goes back to the one before it when the operation is over. -/
def withOwnOutcomes (effect : Effect (Progress σ) α) :
    Effect (Progress σ) (List Outcome × Except Fault α) :=
  .ofFunction fun progress =>
    let (result, after) := effect.apply { progress with outcomes := [] }
    (.ok (after.outcomes, result), { after with outcomes := progress.outcomes })

/-- The outcome of an operation that answers. -/
def settled (reply : Effect (Progress σ) Reply) : Effect (Progress σ) Outcome := do
  match ← reply.outcome with
  | .ok reply => return .replied reply
  | .error fault => return .failed fault

/-- Calls the session that was last given to the work of a transaction. -/
def callSession (host : Host σ τ ω) (call : SessionCall) : Effect (Progress σ) Reply := do
  match (← get).session with
  | some number => return .session (← inside (host.callSession number call))
  | none => throw .missingPart

mutual

/-- Takes a step. -/
def runStep (host : Host σ τ ω) : Step ω → Effect (Progress σ) Outcome
  | .call op => settled (inside (host.call op))
  | .session call => settled (callSession host call)
  | .fail kind message => return .failed (.foreign kind message)
  | .transaction steps goesOn returns => do
    let work := fun token => do
      modify fun progress => { progress with session := some (host.sessionOf token) }
      runSteps host goesOn steps
      return returns
    let bracketed := Effect.bracket (inside host.begin) work fun token outcome =>
      inside (host.conclude token outcome)
    let (outcomes, result) ← withOwnOutcomes bracketed
    return .concluded outcomes result

/-- Takes steps in turn and records their outcomes, going on after a fault or failing with it. -/
def runSteps (host : Host σ τ ω) (goesOn : Bool) : List (Step ω) → Effect (Progress σ) Unit
  | [] => return ()
  | step :: rest => do
    let outcome ← runStep host step
    modify fun progress => { progress with outcomes := progress.outcomes ++ [outcome] }
    match outcome.fault?, goesOn with
    | some fault, false => throw fault
    | _, _ => runSteps host goesOn rest

end

/-- Runs a script from a state of the host: the outcomes of its steps, and the state afterwards. -/
def run (host : Host σ τ ω) (script : List (Step ω)) (state : σ) : List Outcome × σ :=
  let progress := ((runSteps host true script).apply { state }).2
  (progress.outcomes, progress.state)

end

end Docbase.Script
