import ErrorTrail.Error

/-! # Collections: the errors of one layer under a category and a header, each added only when no
structurally equal error is held, with the collection of the layer below as cause. -/

namespace ErrorTrail.Heap

/-- Creates a collection with no errors. The category and then the header must not be blank. -/
def emptyCollection (h : Heap) (category header : String) :
    Except Violation (Heap × CollectionId) := do
  Guard.notBlank "category" category
  Guard.notBlank "header" header
  pure (h.allocCollection ⟨category, header, ErrorSet.empty h.hasher, none⟩)

/-- Whether a collection's own errors hold one structurally equal to `e`. -/
def containsLocal (h : Heap) (c : CollectionId) (e : ErrorId) : Bool :=
  (h.collection c).errors.contains h e

/-- Adds an error unless the collection holds an equal one, and says whether it was added. -/
def tryInsertError (h : Heap) (c : CollectionId) (e : ErrorId) : Heap × Bool :=
  if h.containsLocal c e then (h, false) else (h.pushLocal c e, true)

/-- Adds an error; an error equal to one the collection holds is refused. -/
def insertError (h : Heap) (c : CollectionId) (e : ErrorId) : Except Violation Heap :=
  if h.containsLocal c e then .error (.duplicate (h.error e).description)
  else .ok (h.pushLocal c e)

/-- Adds the errors one by one, skipping those equal to one held, and counts those added. -/
def tryInsertErrors (h : Heap) (c : CollectionId) : List ErrorId → Heap × Nat
  | [] => (h, 0)
  | e :: rest =>
    let (h₁, added) := h.tryInsertError c e
    let (h₂, count) := h₁.tryInsertErrors c rest
    (h₂, if added then count + 1 else count)

/-- The first error of the list equal to one the collection holds or to an earlier one of the
list; `batch` holds the earlier ones. -/
def firstDuplicate? (h : Heap) (c : CollectionId) (batch : ErrorSet) :
    List ErrorId → Option ErrorId
  | [] => none
  | e :: rest =>
    if h.containsLocal c e || batch.contains h e then some e
    else h.firstDuplicate? c (batch.insert (h.fingerprint e) e) rest

/-- Adds all the errors, or none of them when one duplicates a held error or an earlier one of
the list; the first such error is named. -/
def insertErrors (h : Heap) (c : CollectionId) (errors : List ErrorId) : Except Violation Heap :=
  match h.firstDuplicate? c (ErrorSet.empty h.hasher) errors with
  | some e => .error (.duplicate (h.error e).description)
  | none => .ok (errors.foldl (fun acc e => acc.pushLocal c e) h)

/-- Creates a collection holding the given errors, each kept once. The list must not be empty;
the category and header are checked after it. -/
def createCollection (h : Heap) (category header : String) (errors : List ErrorId) :
    Except Violation (Heap × CollectionId) := do
  Guard.notEmpty "errors" errors
  let (h₁, c) ← h.emptyCollection category header
  pure ((h₁.tryInsertErrors c errors).1, c)

/-- A collection holding one error, named after the error's kind and description. -/
def singleCollection (h : Heap) (e : ErrorId) : Heap × CollectionId :=
  let node := h.error e
  h.allocCollection
    ⟨node.kind.name, node.description, (ErrorSet.empty h.hasher).insert (h.fingerprint e) e, none⟩

/-- The violation for a cause that would close a loop through the collection `c`. -/
def collectionCycle (h : Heap) (c : CollectionId) : Violation :=
  .cycle (.collection (h.collection c).header)

/-- Sets or clears the cause of `target`. The collection itself is refused as its own cause,
and then a cause whose chain holds `target`, or does not end; on refusal nothing changes. -/
def setCollectionCause (h : Heap) (target : CollectionId) :
    Option CollectionId → Except Violation Heap
  | none => .ok (h.writeCollectionCause target none)
  | some c =>
    if c = target then .error (.selfReference (.collection (h.collection target).header))
    else
      match h.collectionChain? c with
      | some chain =>
        if chain.contains target then .error (h.collectionCycle target)
        else .ok (h.writeCollectionCause target (some c))
      | none => .error (h.collectionCycle target)

/-- The number of collections in the chain. -/
def collectionChainLength (h : Heap) (c : CollectionId) : Nat :=
  (h.collectionChain c).length

/-- Whether the collection holds errors of its own. -/
def containsErrors (h : Heap) (c : CollectionId) : Bool :=
  !(h.localErrors c).isEmpty

/-- Whether some collection of the chain holds errors of its own. -/
def containsErrorsDeep (h : Heap) (c : CollectionId) : Bool :=
  (h.collectionChain c).any h.containsErrors

/-- The own errors of every collection of the chain, nearest collection first. -/
def allErrors (h : Heap) (c : CollectionId) : List ErrorId :=
  (h.collectionChain c).flatMap h.localErrors

/-- The first own error of the collection whose kind has the name of `kind`. -/
def findLocalByKind (h : Heap) (c : CollectionId) (kind : Kind) : Option ErrorId :=
  (h.localErrors c).find? fun e => (h.error e).kind.same kind

/-- Searches the chain of each error of `allErrors` in turn for a kind with the name of `kind`. -/
def findByKindDeep (h : Heap) (c : CollectionId) (kind : Kind) : Option ErrorId :=
  (h.allErrors c).findSome? fun e => h.findByKind e kind

/-- The most severe error of the chain of each error of `allErrors`, keeping the first of the
highest priority. -/
def mostSevereDeep (h : Heap) (c : CollectionId) : Option ErrorId :=
  (h.allErrors c).foldl
    (fun worst e =>
      let candidate := h.mostSevere e
      match worst with
      | none => some candidate
      | some w => if h.priority w < h.priority candidate then some candidate else some w)
    none

/-- The first kind of highest priority among the kinds of every chain of `allErrors`. -/
def highestKindDeep (h : Heap) (c : CollectionId) : Option Kind :=
  Kind.highest? (((h.allErrors c).flatMap h.errorChain).map fun e => (h.error e).kind)

end ErrorTrail.Heap
