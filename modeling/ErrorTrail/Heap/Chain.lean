import ErrorTrail.Heap.Basic

/-! # Cause chains: a node, its cause, the cause of that, and so on, walked for at most one
node more than the heap holds. -/

namespace ErrorTrail.Heap

/-- The chain of an error, if it ends within `fuel` nodes. -/
def errorWalk (h : Heap) : Nat → ErrorId → Option (List ErrorId)
  | 0, _ => none
  | fuel + 1, e =>
    match h.errorCause e with
    | none => some [e]
    | some c => (h.errorWalk fuel c).map (e :: ·)

/-- The chain of an error, if it ends; it ends unless it meets a node twice. -/
def errorChain? (h : Heap) (e : ErrorId) : Option (List ErrorId) :=
  h.errorWalk (h.errors.size + 1) e

/-- The chain of an error: the error, its cause, the cause of that, and so on. -/
def errorChain (h : Heap) (e : ErrorId) : List ErrorId :=
  (h.errorChain? e).getD [e]

/-- The chain of a collection, if it ends within `fuel` nodes. -/
def collectionWalk (h : Heap) : Nat → CollectionId → Option (List CollectionId)
  | 0, _ => none
  | fuel + 1, c =>
    match h.collectionCause c with
    | none => some [c]
    | some d => (h.collectionWalk fuel d).map (c :: ·)

/-- The chain of a collection, if it ends; it ends unless it meets a node twice. -/
def collectionChain? (h : Heap) (c : CollectionId) : Option (List CollectionId) :=
  h.collectionWalk (h.collections.size + 1) c

/-- The chain of a collection: the collection, its cause, the cause of that, and so on. -/
def collectionChain (h : Heap) (c : CollectionId) : List CollectionId :=
  (h.collectionChain? c).getD [c]

end ErrorTrail.Heap
