/-! # Contract violations: the ways a caller breaks an operation's contract, and their
messages. -/

namespace ErrorTrail

/-- Why an argument was refused. -/
inductive Reason where
  /-- The text is empty or holds only blanks. -/
  | blank
  /-- No value was given. -/
  | absent
  /-- The sequence has no items. -/
  | empty
  /-- The name belongs to a predefined kind. -/
  | reservedName (name : String)
  /-- The priority belongs to the predefined kind named. -/
  | reservedPriority (priority : Int) (kind : String)
  deriving DecidableEq, Repr

/-- The text that says why an argument was refused. -/
def Reason.text : Reason → String
  | .blank => "must not be empty or whitespace"
  | .absent => "must be present"
  | .empty => "must not be empty"
  | .reservedName name => "'" ++ name ++ "' is reserved for a predefined kind"
  | .reservedPriority priority kind => toString priority ++ " is reserved for '" ++ kind ++ "'"

/-- The node whose cause was to be changed. -/
inductive Subject where
  /-- An error, named by its description. -/
  | error (description : String)
  /-- A collection, named by its header. -/
  | collection (header : String)
  deriving DecidableEq, Repr

/-- How a subject is named in a message. -/
def Subject.text : Subject → String
  | .error description => "error '" ++ description ++ "'"
  | .collection header => "collection '" ++ header ++ "'"

/-- The two states of an outcome. -/
inductive Branch where
  /-- The outcome holds a value. -/
  | value
  /-- The outcome holds the collection that explains why there is no value. -/
  | error
  deriving DecidableEq, Repr

/-- The name of a state. -/
def Branch.name : Branch → String
  | .value => "value"
  | .error => "error"

/-- The operations of an outcome that need one particular state. -/
inductive Operation where
  | unwrapValue
  | intoValue
  | unwrapErrorCollection
  | intoErrorCollection
  | addError
  | tryAddError
  | setCause
  | setCauseFrom
  | findByKind
  | findByKindDeep
  | mostSevereDeep
  deriving DecidableEq, Repr

/-- The name of an operation, as messages give it. -/
def Operation.name : Operation → String
  | .unwrapValue => "unwrap_value"
  | .intoValue => "into_value"
  | .unwrapErrorCollection => "unwrap_error_collection"
  | .intoErrorCollection => "into_error_collection"
  | .addError => "add_error"
  | .tryAddError => "try_add_error"
  | .setCause => "set_cause"
  | .setCauseFrom => "set_cause_from"
  | .findByKind => "find_by_kind"
  | .findByKindDeep => "find_by_kind_deep"
  | .mostSevereDeep => "most_severe_deep"

/-- A broken contract. -/
inductive Violation where
  /-- An argument was refused. -/
  | invalidArgument (argument : String) (reason : Reason)
  /-- Setting the cause would make the subject part of its own cause chain. -/
  | cycle (subject : Subject)
  /-- A collection was given itself as its cause. -/
  | selfReference (subject : Subject)
  /-- The operation needs the outcome in the expected state. -/
  | wrongState (operation : Operation) (expected actual : Branch)
  /-- The collection already holds an error equal to the one given. -/
  | duplicate (description : String)
  deriving DecidableEq, Repr

namespace Violation

/-- The class of a violation. -/
def className : Violation → String
  | .invalidArgument .. => "ValidationError"
  | .cycle .. => "CycleError"
  | .selfReference .. => "SelfReferenceError"
  | .wrongState .. => "InvalidStateError"
  | .duplicate .. => "DuplicateError"

/-- The message of a violation. -/
def message : Violation → String
  | .invalidArgument argument reason => "Invalid argument '" ++ argument ++ "': " ++ reason.text
  | .cycle subject => "Cause assignment on " ++ subject.text ++ " would create a cycle"
  | .selfReference subject => subject.text ++ " cannot be its own cause"
  | .wrongState operation expected actual =>
    "'" ++ operation.name ++ "' requires the " ++ expected.name ++ " state, found " ++ actual.name
  | .duplicate description => "Duplicate error: " ++ description

end Violation

end ErrorTrail
