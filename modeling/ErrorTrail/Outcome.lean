import ErrorTrail.Render
import ErrorTrail.Inspect

/-! # Outcomes: a value, or the collection that explains why there is none. -/

namespace ErrorTrail

/-- A value, or the collection of errors that explains why there is none. -/
inductive Outcome (α : Type) where
  | value (v : α)
  | failed (collection : CollectionId)
  deriving Repr

namespace Outcome

variable {α β : Type}

/-- The state of an outcome. -/
def branch : Outcome α → Branch
  | .value _ => .value
  | .failed _ => .error

/-- Whether the outcome holds a value. -/
def isValue (o : Outcome α) : Bool :=
  o.branch == .value

/-- Whether the outcome holds a collection. -/
def isError (o : Outcome α) : Bool :=
  o.branch == .error

/-- A failed outcome whose collection chain holds no error at all. -/
def isUnrecordedFailure (o : Outcome α) (h : Heap) : Bool :=
  match o with
  | .value _ => false
  | .failed c => !h.containsErrorsDeep c

/-- The value, if there is one. -/
def value? : Outcome α → Option α
  | .value v => some v
  | .failed _ => none

/-- The value, for an operation that needs one. -/
def valueFor (operation : Operation) : Outcome α → Except Violation α
  | .value v => .ok v
  | .failed _ => .error (.wrongState operation .value .error)

/-- The collection, for an operation that needs one. -/
def collectionFor (operation : Operation) : Outcome α → Except Violation CollectionId
  | .failed c => .ok c
  | .value _ => .error (.wrongState operation .error .value)

/-- The failed outcome whose collection holds the one error given. -/
def ofError (h : Heap) (e : ErrorId) : Heap × Outcome α :=
  let (h₁, c) := h.singleCollection e
  (h₁, .failed c)

/-- The outcome holding a value that must be present. -/
def ofOption (v : Option α) : Except Violation (Outcome α) :=
  (Guard.notNone "value" v).map .value

/-- Applies a function to the value; a failed outcome keeps its collection. -/
def map (f : α → β) : Outcome α → Outcome β
  | .value v => .value (f v)
  | .failed c => .failed c

/-- Goes on with a computation that may fail in turn; a failed outcome keeps its collection. -/
def bind (o : Outcome α) (f : α → Heap → Heap × Outcome β) (h : Heap) : Heap × Outcome β :=
  match o with
  | .value v => f v h
  | .failed c => (h, .failed c)

/-- Adds an error to the collection; an equal error is refused. -/
def addError (o : Outcome α) (h : Heap) (e : ErrorId) : Except Violation Heap := do
  h.insertError (← o.collectionFor .addError) e

/-- Adds an error to the collection unless it holds an equal one. -/
def tryAddError (o : Outcome α) (h : Heap) (e : ErrorId) : Except Violation (Heap × Bool) := do
  pure (h.tryInsertError (← o.collectionFor .tryAddError) e)

/-- Sets or clears the cause of the collection. -/
def setCause (o : Outcome α) (h : Heap) (cause : Option CollectionId) : Except Violation Heap := do
  h.setCollectionCause (← o.collectionFor .setCause) cause

/-- Makes the collection of `other` the cause of this outcome's collection; this outcome's
state is checked first. -/
def setCauseFrom (o : Outcome α) (other : Outcome β) (h : Heap) : Except Violation Heap := do
  let c ← o.collectionFor .setCauseFrom
  let d ← other.collectionFor .setCauseFrom
  h.setCollectionCause c (some d)

/-- The first own error of the collection with the kind's name. -/
def findByKind (o : Outcome α) (h : Heap) (kind : Kind) : Except Violation (Option ErrorId) := do
  pure (h.findLocalByKind (← o.collectionFor .findByKind) kind)

/-- The first error with the kind's name in the chains of the collection's errors. -/
def findByKindDeep (o : Outcome α) (h : Heap) (kind : Kind) :
    Except Violation (Option ErrorId) := do
  pure (h.findByKindDeep (← o.collectionFor .findByKindDeep) kind)

/-- The most severe error in the chains of the collection's errors. -/
def mostSevereDeep (o : Outcome α) (h : Heap) : Except Violation (Option ErrorId) := do
  pure (h.mostSevereDeep (← o.collectionFor .mostSevereDeep))

/-- The text of the value whatever the style, or the rendered collection. -/
def render (o : Outcome α) (text : α → String) (h : Heap) (style : Style) : String :=
  match o with
  | .value v => text v
  | .failed c => h.renderCollection style c

/-- The inspection form: the value or the collection, marked with the state. -/
def inspect (o : Outcome α) (inspectValue : α → String) (h : Heap) : String :=
  match o with
  | .value v => "Value(" ++ inspectValue v ++ ")"
  | .failed c => "Error(" ++ h.inspectCollection c ++ ")"

end Outcome

end ErrorTrail
