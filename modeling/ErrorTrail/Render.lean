import ErrorTrail.Collection
import ErrorTrail.Layout
import ErrorTrail.Style

/-! # Rendering: errors and collections as chains of links under a style, cut at its depth
limit. -/

namespace ErrorTrail.Heap

/-- One error, without its causes. -/
def renderErrorLink (h : Heap) (style : Style) (e : ErrorId) : String :=
  let node := h.error e
  let base := node.kind.name ++ ": " ++ node.description
  match style.includeDetails, node.details with
  | true, some details => base ++ " [details: " ++ details ++ "]"
  | _, _ => base

/-- An error and its causes. -/
def renderError (h : Heap) (style : Style) (e : ErrorId) : String :=
  Layout.chain ((h.errorChain e).map (h.renderErrorLink style)) style.errorLink style.maxDepth

/-- One collection with its own errors, without its causes. -/
def renderCollectionLink (h : Heap) (style : Style) (c : CollectionId) : String :=
  let node := h.collection c
  "[" ++ node.category ++ "] " ++ node.header ++ ": [" ++
    Layout.join ((h.localErrors c).map (h.renderError style)) style.listSeparator ++ "]"

/-- A collection and its causes. -/
def renderCollection (h : Heap) (style : Style) (c : CollectionId) : String :=
  Layout.chain ((h.collectionChain c).map (h.renderCollectionLink style)) style.collectionLink
    style.maxDepth

end ErrorTrail.Heap
