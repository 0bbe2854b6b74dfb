import Docbase.Pattern.Problem
import Docbase.Value.Shown

/-!
# Faults

Everything that can go wrong in an operation, by cause, with the kind that callers see, the
wording, and the particulars that go with it.
-/

namespace Docbase

/-- Why a filter, an order, a pipeline or an include is refused. -/
inductive QueryFault where
  /-- A pattern is neither a text nor compiled. -/
  | patternNotText (field : String)
  /-- The text of a pattern is malformed. -/
  | malformedPattern (field source : String) (problem : Pattern.Problem) (position : Option Nat)
  /-- The operand of a membership operator is not a list. -/
  | operandNotList (operator field : String)
  /-- A filter is not an object. -/
  | filterNotObject (typeName : String)
  /-- The operand of a connective is not a list. -/
  | connectiveNotList (key : String)
  /-- A direction of sorting that is none. -/
  | badDirection (direction : Value) (field : String)
  /-- A grouping key that is neither null nor a field. -/
  | badGroupKey (spec : Value)
  /-- A grouping that is not an object. -/
  | groupNotObject
  /-- An accumulator without exactly one operator. -/
  | badAccumulator (name : String)
  /-- A stage that is not an object. -/
  | stageNotObject (typeName : String)
  /-- A stage with several names. -/
  | manyStageNames (names : List String)
  /-- An include of no known form. -/
  | badInclude (item : Value)

/-- The wording of a query fault. -/
def QueryFault.message : QueryFault → String
  | patternNotText field => "$regex on '" ++ field ++ "' requires a string pattern"
  | malformedPattern field source problem position =>
    "Invalid $regex on '" ++ field ++ "': " ++ problem.describe position source
  | operandNotList operator field => operator ++ " on '" ++ field ++ "' requires a list"
  | filterNotObject typeName => "Filter must be a mapping, got " ++ typeName
  | connectiveNotList key => key ++ " requires a list of filters"
  | badDirection direction field =>
    "Invalid sort direction " ++ direction.quoted ++ " for field '" ++ field
      ++ "' (use 'asc' or 'desc')"
  | badGroupKey spec => "$group _id must be null or a field reference, got " ++ spec.quoted
  | groupNotObject => "$group requires a mapping"
  | badAccumulator name => "Accumulator '" ++ name ++ "' must have exactly one operator"
  | stageNotObject typeName => "Pipeline stage must be a mapping, got " ++ typeName
  | manyStageNames names =>
    "Pipeline stage must have exactly one key, got "
      ++ (Value.list (names.map Value.text)).quoted
  | badInclude item => "Invalid include " ++ item.quoted

/-- Why a session or a transaction refuses to go on. -/
inductive SessionFault where
  /-- The session is over. -/
  | ended
  /-- The session is in a transaction already. -/
  | started
  /-- A transaction is in flight. -/
  | nested
  deriving DecidableEq, Repr

/-- The wording of a session fault. -/
def SessionFault.message : SessionFault → String
  | ended => "Session has already ended"
  | started => "Transaction already in progress on this session"
  | nested => "Nested transactions are not supported"

/-- What went wrong in an operation. -/
inductive Fault where
  /-- The schema has no such resource. -/
  | unknownResource (resource : String)
  /-- The resource has no such relation. -/
  | unknownRelation (resource relation : String)
  /-- The resource has no such record. -/
  | unknownRecord (resource : String) (id : Value)
  /-- Required fields are absent. -/
  | missingFields (resource : String) (fields : List String)
  /-- A value outside the set that its field allows. -/
  | disallowedValue (resource field : String) (value : Value) (allowed : List String)
  /-- An identifier that is in use. -/
  | duplicateKey (collection : String) (id : Value)
  /-- A query of the wrong shape. -/
  | query (cause : QueryFault)
  /-- There is no connection. -/
  | notConnected
  /-- A session or transaction is misused. -/
  | session (cause : SessionFault)
  /-- A value of a type that an operation cannot work with. -/
  | wrongType
  /-- A value lacks a part that an operation needs. -/
  | missingPart
  /-- An object lacks a key that an operation needs. -/
  | missingKey
  /-- A value of the right type that an operation cannot work with. -/
  | badValue
  /-- A number beyond the range of doubles or counts. -/
  | tooLarge
  /-- A failure of the caller's own making. -/
  | foreign (kind message : String)

namespace Fault

/-- The kind of a fault, as callers and logs see it. -/
def kind : Fault → String
  | unknownResource _ => "ResourceNotFound"
  | unknownRelation _ _ => "RelationNotFound"
  | unknownRecord _ _ => "RecordNotFound"
  | missingFields _ _ => "MissingRequiredField"
  | disallowedValue .. => "InvalidEnumValue"
  | duplicateKey _ _ => "DuplicateKey"
  | query _ => "InvalidQuery"
  | notConnected => "NotConnected"
  | session _ => "TransactionError"
  | wrongType => "TypeError"
  | missingPart => "AttributeError"
  | missingKey => "KeyError"
  | badValue => "ValueError"
  | tooLarge => "OverflowError"
  | foreign kind _ => kind

/-- The wording of a fault, for those that have one of their own. -/
def message? : Fault → Option String
  | unknownResource resource => some ("Resource \"" ++ resource ++ "\" not found")
  | unknownRelation resource relation =>
    some ("Relation \"" ++ relation ++ "\" not found on resource \"" ++ resource ++ "\"")
  | unknownRecord resource id =>
    some ("Record with id \"" ++ id.shown ++ "\" not found in resource \"" ++ resource ++ "\"")
  | missingFields resource fields =>
    let plural := if 1 < fields.length then "s" else ""
    let names := ", ".intercalate (fields.map fun field => "\"" ++ field ++ "\"")
    some ("Required field" ++ plural ++ " " ++ names ++ " missing on resource \"" ++ resource
      ++ "\"")
  | disallowedValue resource field value allowed =>
    some ("Invalid enum value \"" ++ value.shown ++ "\" for field \"" ++ field
      ++ "\" on resource \"" ++ resource ++ "\". Allowed values: " ++ ", ".intercalate allowed)
  | duplicateKey collection id =>
    some ("Duplicate _id \"" ++ id.shown ++ "\" in collection \"" ++ collection ++ "\"")
  | query cause => some cause.message
  | notConnected => some "DocumentStore is not connected. Call connect() first."
  | session cause => some cause.message
  | foreign _ message => some message
  | wrongType => none
  | missingPart => none
  | missingKey => none
  | badValue => none
  | tooLarge => none

/-- The particulars of a fault, by name. -/
def particulars : Fault → List (String × Value)
  | unknownResource resource => [("resource", .text resource)]
  | unknownRelation resource relation =>
    [("resource", .text resource), ("relation", .text relation)]
  | unknownRecord resource id => [("resource", .text resource), ("record_id", id)]
  | missingFields resource fields =>
    [("resource", .text resource), ("fields", .list (fields.map Value.text))]
  | disallowedValue resource field value allowed =>
    [("resource", .text resource), ("field", .text field), ("value", value),
      ("allowed", .list (allowed.map Value.text))]
  | duplicateKey collection id => [("collection", .text collection), ("doc_id", id)]
  | _ => []

/-- Whether a fault is one of the store's own, with a wording to be shown to users. -/
def isOwn : Fault → Bool
  | foreign _ _ => false
  | fault => fault.message?.isSome

end Fault

end Docbase
