import ErrorTrail.Collection
import ErrorTrail.Text.Quoted

/-! # Inspection: errors and collections as records of every field, with texts quoted. -/

namespace ErrorTrail.Heap

open Text

/-- The fields of one error. -/
def inspectErrorFields (h : Heap) (e : ErrorId) : String :=
  let node := h.error e
  "kind: " ++ quote node.kind.name ++ ", description: " ++ quote node.description ++
    ", details: " ++ quoteOption node.details

/-- One error as a record, without its causes. -/
def inspectErrorLink (h : Heap) (e : ErrorId) : String :=
  "Error \x7b " ++ h.inspectErrorFields e ++ " \x7d"

/-- An error as a record, with the records of its causes. -/
def inspectError (h : Heap) (e : ErrorId) : String :=
  "Error \x7b " ++ h.inspectErrorFields e ++ ", causes: " ++
    bracketList ((h.errorChain e).tail.map h.inspectErrorLink) ++ " \x7d"

/-- The fields of one collection, its own errors in full. -/
def inspectCollectionFields (h : Heap) (c : CollectionId) : String :=
  let node := h.collection c
  "category: " ++ quote node.category ++ ", header: " ++ quote node.header ++
    ", errors: " ++ bracketList ((h.localErrors c).map h.inspectError)

/-- One collection as a record, without its causes. -/
def inspectCollectionLink (h : Heap) (c : CollectionId) : String :=
  "ErrorCollection \x7b " ++ h.inspectCollectionFields c ++ " \x7d"

/-- A collection as a record, with the records of the collections of its chain. -/
def inspectCollection (h : Heap) (c : CollectionId) : String :=
  "ErrorCollection \x7b " ++ h.inspectCollectionFields c ++ ", causes: " ++
    bracketList ((h.collectionChain c).tail.map h.inspectCollectionLink) ++ " \x7d"

end ErrorTrail.Heap
