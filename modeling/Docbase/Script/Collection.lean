import Docbase.Script.Backend

/-!
# Calls of a single collection

A collection is used through a connected backend of which it is the only one, so that documents
get their identifiers from the surroundings of that backend.
-/

namespace Docbase.Script

/-- A call of a collection. -/
inductive CollectionCall where
  /-- To store a document. -/
  | insert (doc : Value)
  /-- To look up the document of an identifier. -/
  | get (id : Value)
  /-- To find documents by a filter, in an order, on a page. -/
  | find (filter order skip limit : Value)
  /-- To find one document. -/
  | findOne (filter : Value)
  /-- To change one document. -/
  | update (filter changes : Value)
  /-- To remove one document. -/
  | delete (filter : Value)
  /-- To count documents. -/
  | count (filter : Value)
  /-- To give all documents. -/
  | all
  /-- To take a snapshot. -/
  | takeSnapshot
  /-- To go back to the snapshot. -/
  | restoreSnapshot
  /-- To drop the snapshot. -/
  | discardSnapshot

/-- A connected backend with an empty collection. -/
def Connection.ofCollection (name : String) (around : Surroundings) : Connection where
  backend := { database := "", connected := true, collections := [(name, { name })] }
  around := around

namespace CollectionCall

/-- Changes the collection itself. -/
def change (name : String) (step : Collection → Collection) : Effect Connection Reply := do
  Connection.change fun b => b.replace name (step (b.collection name))
  return .nothing

/-- Carries out a call of the collection of a name. -/
def run (name : String) : CollectionCall → Effect Connection Reply
  | insert doc => BackendCall.run (.insert name doc)
  | get id => do
    let doc ← Effect.ofExcept (((← MonadState.get).backend.collection name).get id)
    return .value ((doc.map Value.object).getD .null)
  | find filter order skip limit => BackendCall.run (.find name filter order skip limit)
  | findOne filter => BackendCall.run (.findOne name filter)
  | update filter changes => BackendCall.run (.update name filter changes)
  | delete filter => BackendCall.run (.delete name filter)
  | count filter => BackendCall.run (.count name filter)
  | all => do
    let docs := ((← MonadState.get).backend.collection name).documents
    return .value (.list (docs.map Value.object))
  | takeSnapshot => change name Collection.takeSnapshot
  | restoreSnapshot => change name Collection.restoreSnapshot
  | discardSnapshot => change name Collection.discardSnapshot

end CollectionCall

end Docbase.Script
