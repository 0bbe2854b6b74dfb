import Docbase.Script.Basic
import Docbase.Storage.Transaction

/-!
# Scripts for a backend
-/

namespace Docbase.Script

/-- A call of a backend. -/
inductive BackendCall where
  /-- To connect. -/
  | connect
  /-- To disconnect. -/
  | disconnect
  /-- Whether there is a connection. -/
  | isConnected
  /-- The names of the collections created on purpose. -/
  | listCollections
  /-- To create a collection on purpose. -/
  | createCollection (name : String)
  /-- To store a document. -/
  | insert (name : String) (doc : Value)
  /-- To find documents by a filter, in an order, on a page. -/
  | find (name : String) (filter order skip limit : Value)
  /-- To find one document. -/
  | findOne (name : String) (filter : Value)
  /-- To change one document. -/
  | update (name : String) (filter update : Value)
  /-- To remove one document. -/
  | delete (name : String) (filter : Value)
  /-- To count documents. -/
  | count (name : String) (filter : Value)
  /-- To take all documents through a pipeline. -/
  | aggregate (name : String) (pipeline : Value)
  /-- To open a session. -/
  | startSession
  /-- To take a snapshot. -/
  | takeSnapshot
  /-- To go back to the snapshot. -/
  | restoreSnapshot
  /-- To drop the snapshot. -/
  | discardSnapshot
  /-- Whether a transaction is in flight. -/
  | isActive

namespace BackendCall

/-- Carries out a call that changes something and answers nothing. -/
def silently (effect : Effect Connection Unit) : Effect Connection Reply := do
  effect
  return .nothing

/-- Carries out a call. -/
def run : BackendCall → Effect Connection Reply
  | connect => silently Connection.connect
  | disconnect => silently Connection.disconnect
  | isConnected => return .truth (← get).backend.connected
  | listCollections => return .names (← Connection.listCollections)
  | createCollection name => silently (Connection.createCollection name)
  | insert name doc => return .value (← Connection.insertOne name doc)
  | find name filter order skip limit => do
    let filter ← Effect.ofExcept (Filter.read filter)
    let order ← Effect.ofExcept (SortField.readAll order)
    let docs ← Connection.find name { filter, order, skip, limit }
    return .value (.list (docs.map Value.object))
  | findOne name filter => do
    let doc ← Connection.findOne name filter
    return .value ((doc.map Value.object).getD .null)
  | update name filter changes =>
    return .number (← Connection.updateOne name filter changes)
  | delete name filter => return .number (← Connection.deleteOne name filter)
  | count name filter => return .number (← Connection.countDocuments name filter)
  | aggregate name pipeline => do
    let docs ← Connection.aggregate name pipeline
    return .value (.list (docs.map Value.object))
  | startSession => do
    let number ← Connection.startSession
    return .session ((← get).around.sessions[number]?.getD {})
  | takeSnapshot => silently Connection.takeSnapshot
  | restoreSnapshot => silently Connection.restoreSnapshot
  | discardSnapshot => silently Connection.discardSnapshot
  | isActive => return .truth (← get).isActive

end BackendCall

/-- A backend as the host of scripts. -/
def backendHost : Host Connection Nat BackendCall where
  call := BackendCall.run
  callSession number call := Connection.outside (Surroundings.callSession number call)
  begin := Transaction.begin
  sessionOf session := session
  conclude := Transaction.conclude

end Docbase.Script
