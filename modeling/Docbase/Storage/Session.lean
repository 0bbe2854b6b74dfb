import Docbase.Fault

/-!
# Sessions

A session keeps track of whether a transaction is under way in it and whether it is over.
-/

namespace Docbase

/-- The state of a session. -/
structure Session where
  /-- Whether a transaction is under way. -/
  inTransaction : Bool := false
  /-- Whether the session is over. -/
  hasEnded : Bool := false
  deriving DecidableEq, Repr, Inhabited

/-- What can be asked of a session. -/
inductive SessionCall where
  /-- To start a transaction. -/
  | start
  /-- To commit the transaction. -/
  | commit
  /-- To abort the transaction. -/
  | abort
  /-- To end. -/
  | finish
  deriving DecidableEq, Repr

namespace Session

/-- Answers a call: the session afterwards, or why it refuses. -/
def call (session : Session) : SessionCall → Except SessionFault Session
  | .start =>
    if session.hasEnded then .error .ended
    else if session.inTransaction then .error .started
    else .ok { session with inTransaction := true }
  | .commit =>
    if session.hasEnded then .error .ended else .ok { session with inTransaction := false }
  | .abort =>
    if session.hasEnded then .error .ended else .ok { session with inTransaction := false }
  | .finish => .ok ⟨false, true⟩

end Session

namespace SessionCall

/-- The call of a name. -/
def ofName? (name : String) : Option SessionCall :=
  [("start_transaction", start), ("commit_transaction", commit), ("abort_transaction", abort),
    ("end_session", finish)].lookup name

end SessionCall

end Docbase
