import ErrorTrail.Heap.ErrorSet

/-! # Heaps: every error and collection node at its position; nodes are only added, and after
creation only causes and the errors of collections change. -/

namespace ErrorTrail

/-- One collection: its category, its header, its own errors, and its cause. -/
structure CollectionNode where
  category : String
  header : String
  errors : ErrorSet
  cause : Option CollectionId

instance : Inhabited CollectionNode := ⟨⟨"", "", ErrorSet.empty hash, none⟩⟩

/-- The error nodes, the collection nodes, and the hash function that the next new error set
takes. The hash function stands for the random keys that set draws; the runtime may draw new ones
before any set is made, so each set hashes with its own and no answer may depend on them. -/
structure Heap where
  errors : Array ErrorNode := #[]
  collections : Array CollectionNode := #[]
  hasher : Fingerprint → UInt64 := hash

namespace Heap

/-- The error node at a position. -/
def error (h : Heap) (e : ErrorId) : ErrorNode :=
  h.errors[e.index]?.getD default

/-- The collection node at a position. -/
def collection (h : Heap) (c : CollectionId) : CollectionNode :=
  h.collections[c.index]?.getD default

/-- The cause of an error. -/
def errorCause (h : Heap) (e : ErrorId) : Option ErrorId :=
  (h.error e).cause

/-- The cause of a collection. -/
def collectionCause (h : Heap) (c : CollectionId) : Option CollectionId :=
  (h.collection c).cause

/-- The fingerprint of an error. -/
def fingerprint (h : Heap) (e : ErrorId) : Fingerprint :=
  (h.error e).fingerprint

/-- The errors a collection holds itself, in insertion order. -/
def localErrors (h : Heap) (c : CollectionId) : List ErrorId :=
  (h.collection c).errors.toList

/-- Adds an error node at the next free position. -/
def allocError (h : Heap) (node : ErrorNode) : Heap × ErrorId :=
  let id : ErrorId := ⟨h.errors.size⟩
  ({ h with errors := h.errors.push node }, id)

/-- Adds a collection node at the next free position. -/
def allocCollection (h : Heap) (node : CollectionNode) : Heap × CollectionId :=
  let id : CollectionId := ⟨h.collections.size⟩
  ({ h with collections := h.collections.push node }, id)

/-- Replaces the cause of an error and leaves every other node as it is. -/
def writeErrorCause (h : Heap) (e : ErrorId) (cause : Option ErrorId) : Heap :=
  { h with errors := h.errors.modify e.index fun n => { n with cause := cause } }

/-- Changes one collection node and leaves every other node as it is. -/
def modifyCollection (h : Heap) (c : CollectionId) (f : CollectionNode → CollectionNode) : Heap :=
  { h with collections := h.collections.modify c.index f }

/-- Replaces the cause of a collection. -/
def writeCollectionCause (h : Heap) (c : CollectionId) (cause : Option CollectionId) : Heap :=
  h.modifyCollection c fun n => { n with cause := cause }

/-- Appends an error to a collection's own errors. -/
def pushLocal (h : Heap) (c : CollectionId) (e : ErrorId) : Heap :=
  let key := h.fingerprint e
  h.modifyCollection c fun n => { n with errors := n.errors.insert key e }

/-! ### Reading after a change -/

@[simp] theorem error_allocError_self (h : Heap) (n : ErrorNode) :
    (h.allocError n).1.error (h.allocError n).2 = n := by
  simp [allocError, error]

theorem error_allocError_of_lt (h : Heap) (n : ErrorNode) {e : ErrorId}
    (he : e.index < h.errors.size) : (h.allocError n).1.error e = h.error e := by
  simp [allocError, error, Array.getElem?_push, Nat.ne_of_lt he]

@[simp] theorem collection_allocError (h : Heap) (n : ErrorNode) (c : CollectionId) :
    (h.allocError n).1.collection c = h.collection c := rfl

@[simp] theorem collection_allocCollection_self (h : Heap) (n : CollectionNode) :
    (h.allocCollection n).1.collection (h.allocCollection n).2 = n := by
  simp [allocCollection, collection]

@[simp] theorem error_allocCollection (h : Heap) (n : CollectionNode) (e : ErrorId) :
    (h.allocCollection n).1.error e = h.error e := rfl

theorem error_writeErrorCause_self (h : Heap) {e : ErrorId} (cause : Option ErrorId)
    (he : e.index < h.errors.size) :
    (h.writeErrorCause e cause).error e = { h.error e with cause := cause } := by
  simp [writeErrorCause, error, he, Array.getElem_modify]

theorem error_writeErrorCause_of_ne (h : Heap) {e x : ErrorId} (cause : Option ErrorId)
    (hx : x ≠ e) : (h.writeErrorCause e cause).error x = h.error x := by
  simp [writeErrorCause, error, Array.getElem?_modify, Ne.symm (ErrorId.index_ne_of_ne hx)]

@[simp] theorem size_errors_writeErrorCause (h : Heap) (e : ErrorId) (cause : Option ErrorId) :
    (h.writeErrorCause e cause).errors.size = h.errors.size := by
  simp [writeErrorCause]

@[simp] theorem collection_writeErrorCause (h : Heap) (e : ErrorId) (cause : Option ErrorId)
    (c : CollectionId) : (h.writeErrorCause e cause).collection c = h.collection c := rfl

@[simp] theorem error_modifyCollection (h : Heap) (c : CollectionId)
    (f : CollectionNode → CollectionNode) (e : ErrorId) :
    (h.modifyCollection c f).error e = h.error e := rfl

theorem collection_modifyCollection_self (h : Heap) {c : CollectionId}
    (f : CollectionNode → CollectionNode) (hc : c.index < h.collections.size) :
    (h.modifyCollection c f).collection c = f (h.collection c) := by
  simp [modifyCollection, collection, hc, Array.getElem_modify]

theorem collection_modifyCollection_of_ne (h : Heap) {c x : CollectionId}
    (f : CollectionNode → CollectionNode) (hx : x ≠ c) :
    (h.modifyCollection c f).collection x = h.collection x := by
  simp [modifyCollection, collection, Array.getElem?_modify, Ne.symm (CollectionId.index_ne_of_ne hx)]

@[simp] theorem size_collections_modifyCollection (h : Heap) (c : CollectionId)
    (f : CollectionNode → CollectionNode) :
    (h.modifyCollection c f).collections.size = h.collections.size := by
  simp [modifyCollection]

end Heap

end ErrorTrail
