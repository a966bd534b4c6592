import ErrorTrail.Heap.Equality
import ErrorTrail.Guard

/-! # Errors: creating them, setting their causes so that no chain loops, and the queries along a
chain. -/

namespace ErrorTrail.Heap

/-- The violation for a cause that would close a loop through the error `e`. -/
def errorCycle (h : Heap) (e : ErrorId) : Violation :=
  .cycle (.error (h.error e).description)

/-- Creates an error with the given kind, description, details and cause. The description must
not be blank, and the cause's chain must end. -/
def createError (h : Heap) (kind : Kind) (description : String) (details : Option String)
    (cause : Option ErrorId) : Except Violation (Heap × ErrorId) := do
  Guard.notBlank "description" description
  match cause with
  | some c => if (h.errorChain? c).isNone then throw (h.errorCycle c)
  | none => pure ()
  pure (h.allocError ⟨kind, description, details, cause⟩)

/-- Sets or clears the cause of `target`. A cause whose chain holds `target`, or does not
end, is refused and nothing changes. -/
def setErrorCause (h : Heap) (target : ErrorId) : Option ErrorId → Except Violation Heap
  | none => .ok (h.writeErrorCause target none)
  | some c =>
    match h.errorChain? c with
    | some chain =>
      if chain.contains target then .error (h.errorCycle target)
      else .ok (h.writeErrorCause target (some c))
    | none => .error (h.errorCycle target)

/-- The number of errors in the chain. -/
def chainLength (h : Heap) (e : ErrorId) : Nat :=
  (h.errorChain e).length

/-- The last error of the chain. -/
def rootCause (h : Heap) (e : ErrorId) : ErrorId :=
  (h.errorChain e).getLast?.getD e

/-- The first error of the chain whose kind has the name of `kind`. -/
def findByKind (h : Heap) (e : ErrorId) (kind : Kind) : Option ErrorId :=
  (h.errorChain e).find? fun x => (h.error x).kind.same kind

/-- The priority of an error's kind. -/
def priority (h : Heap) (e : ErrorId) : Int :=
  (h.error e).kind.priority

/-- The first error of highest priority in the chain. -/
def mostSevere (h : Heap) (e : ErrorId) : ErrorId :=
  match h.errorChain e with
  | [] => e
  | x :: rest => Kind.firstHighest h.priority x rest

end ErrorTrail.Heap
