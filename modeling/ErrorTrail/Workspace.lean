import Std.Data.TreeMap
import ErrorTrail.Outcome.Typed

/-! # Workspaces: names bound to kinds, errors, collections and typed outcomes over one heap. -/

namespace ErrorTrail

/-- Names bound to kinds, errors, collections and typed outcomes, and the heap of nodes. -/
structure Workspace where
  heap : Heap := {}
  kinds : Std.TreeMap String Kind compare := {}
  errors : Std.TreeMap String ErrorId compare := {}
  collections : Std.TreeMap String CollectionId compare := {}
  outcomes : Std.TreeMap String TypedOutcome compare := {}

/-- What a reader sees of an error. -/
structure ErrorView where
  kind : Kind
  description : String
  details : Option String
  handles : List String

/-- What a reader sees of a collection. -/
structure CollectionView where
  category : String
  header : String
  length : Nat
  handles : List String

namespace Workspace

/-- The kind bound to a name, else the predefined kind of that name. -/
def kind? (w : Workspace) (name : String) : Option Kind :=
  (w.kinds.get? name).or (Kind.predefinedNamed? name)

/-- The error bound to a name. -/
def error? (w : Workspace) (name : String) : Option ErrorId :=
  w.errors.get? name

/-- The collection bound to a name. -/
def collection? (w : Workspace) (name : String) : Option CollectionId :=
  w.collections.get? name

/-- The typed outcome bound to a name. -/
def outcome? (w : Workspace) (name : String) : Option TypedOutcome :=
  w.outcomes.get? name

/-- Binds a kind to a name, if a name is given. -/
def bindKind (w : Workspace) : Option String → Kind → Workspace
  | none, _ => w
  | some name, k => { w with kinds := w.kinds.insert name k }

/-- Binds an error to a name, if a name is given. -/
def bindError (w : Workspace) : Option String → ErrorId → Workspace
  | none, _ => w
  | some name, e => { w with errors := w.errors.insert name e }

/-- Binds a collection to a name, if a name is given. -/
def bindCollection (w : Workspace) : Option String → CollectionId → Workspace
  | none, _ => w
  | some name, c => { w with collections := w.collections.insert name c }

/-- Binds a typed outcome to a name, if a name is given. -/
def bindOutcome (w : Workspace) : Option String → TypedOutcome → Workspace
  | none, _ => w
  | some name, o => { w with outcomes := w.outcomes.insert name o }

/-- The names bound to an error node, in order. -/
def errorHandles (w : Workspace) (e : ErrorId) : List String :=
  (w.errors.toList.filter (·.2 == e)).map (·.1)

/-- The names bound to a collection node, in order. -/
def collectionHandles (w : Workspace) (c : CollectionId) : List String :=
  (w.collections.toList.filter (·.2 == c)).map (·.1)

/-- The view of an error. -/
def errorView (w : Workspace) (e : ErrorId) : ErrorView :=
  let node := w.heap.error e
  ⟨node.kind, node.description, node.details, w.errorHandles e⟩

/-- The view of a collection. -/
def collectionView (w : Workspace) (c : CollectionId) : CollectionView :=
  let node := w.heap.collection c
  ⟨node.category, node.header, node.errors.size, w.collectionHandles c⟩

end Workspace

namespace Heap

/-- Creates errors named `pre` followed by each number of the list, each the cause of the one
before, starting below `prev`; gives the last one. -/
def extendErrorChain (h : Heap) (kind : Kind) (pre : String) (prev : ErrorId) :
    List Nat → Except Violation (Heap × ErrorId)
  | [] => .ok (h, prev)
  | i :: rest => do
    let (h₁, e) ← h.createError kind (pre ++ toString i) none none
    let h₂ ← h₁.setErrorCause prev (some e)
    h₂.extendErrorChain kind pre e rest

/-- A chain of `count` new errors named `pre` followed by 0, 1, and so on, each caused by the
next; gives the first and the last. -/
def buildErrorChain (h : Heap) (kind : Kind) (pre : String) (count : Nat) :
    Except Violation (Heap × ErrorId × ErrorId) := do
  let (h₁, top) ← h.createError kind (pre ++ "0") none none
  let (h₂, leaf) ← h₁.extendErrorChain kind pre top (List.range' 1 (count - 1))
  pure (h₂, top, leaf)

/-- Creates empty collections with headers `pre` followed by each number of the list, each the
cause of the one before, starting below `prev`; gives the last one. -/
def extendCollectionChain (h : Heap) (category pre : String) (prev : CollectionId) :
    List Nat → Except Violation (Heap × CollectionId)
  | [] => .ok (h, prev)
  | i :: rest => do
    let (h₁, c) ← h.emptyCollection category (pre ++ toString i)
    let h₂ ← h₁.setCollectionCause prev (some c)
    h₂.extendCollectionChain category pre c rest

/-- A chain of `count` new empty collections with headers `pre` followed by 0, 1, and so on,
each caused by the next; gives the first and the last. -/
def buildCollectionChain (h : Heap) (category pre : String) (count : Nat) :
    Except Violation (Heap × CollectionId × CollectionId) := do
  let (h₁, top) ← h.emptyCollection category (pre ++ "0")
  let (h₂, leaf) ← h₁.extendCollectionChain category pre top (List.range' 1 (count - 1))
  pure (h₂, top, leaf)

end Heap

end ErrorTrail
