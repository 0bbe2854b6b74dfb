import Docbase.Storage.Backend

/-!
# Transactions

A transaction runs a piece of work between a snapshot and either a commit, which keeps what the
work has written, or a rollback, which undoes it. At most one is in flight at a time.
-/

namespace Docbase.Transaction

/-- Begins a transaction in a new session, whose number it gives. -/
def begin : Effect Connection Nat := do
  if (← get).isActive then throw (.session .nested)
  let session ← Connection.startSession
  modify fun c => { c with isActive := true }
  Connection.takeSnapshot
  let _ ← Connection.outside (Surroundings.callSession session .start)
  return session

/-- Keeps what has been written. -/
def commit (session : Nat) : Effect Connection Unit := do
  let _ ← Connection.outside (Surroundings.callSession session .commit)
  Connection.discardSnapshot
  Connection.outside (Surroundings.log Level.debug "Tx" "Transaction committed" [])

/-- Undoes what has been written, for a fault of some kind. -/
def rollback (session : Nat) (kind : String) : Effect Connection Unit := do
  let _ ← Connection.outside (Surroundings.callSession session .abort)
  Connection.restoreSnapshot
  Connection.outside (Surroundings.log Level.info "Tx"
    "Transaction aborted, collections restored" [("error", .text kind)])

/-- Ends the session; no transaction is in flight any more. -/
def close (session : Nat) : Effect Connection Unit := do
  let _ ← Connection.outside (Surroundings.callSession session .finish)
  modify fun c => { c with isActive := false }

/-- Brings a transaction to its end with the outcome of its work: a value commits it, and a fault
rolls it back. When the session refuses to commit or to abort, that is the fault. The session ends
in any case. -/
def conclude {α : Type} (session : Nat) (outcome : Except Fault α) : Effect Connection α := do
  let ending ← Effect.outcome <|
    match outcome with
    | .ok _ => commit session
    | .error fault => rollback session fault.kind
  close session
  Effect.ofExcept ending
  Effect.ofExcept outcome

/-- Runs a piece of work, which is given the number of its session, as a transaction. -/
def run {α : Type} (work : Nat → Effect Connection α) : Effect Connection α :=
  Effect.bracket begin work conclude

end Docbase.Transaction
