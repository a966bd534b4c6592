import ErrorTrail.Kind

/-! # Nodes: shared errors and collections named by their positions in a heap, and the
fingerprint that structural equality compares at one link. -/

namespace ErrorTrail

/-- The position of an error node in a heap. -/
structure ErrorId where
  index : Nat
  deriving DecidableEq, Hashable, Repr, Inhabited

/-- The position of a collection node in a heap. -/
structure CollectionId where
  index : Nat
  deriving DecidableEq, Hashable, Repr, Inhabited

/-- Distinct error ids are at distinct positions. -/
theorem ErrorId.index_ne_of_ne {x e : ErrorId} (h : x ≠ e) : x.index ≠ e.index :=
  fun hi => h (by cases x; cases e; simp_all)

/-- Distinct collection ids are at distinct positions. -/
theorem CollectionId.index_ne_of_ne {x c : CollectionId} (h : x ≠ c) : x.index ≠ c.index :=
  fun hi => h (by cases x; cases c; simp_all)

/-- What structural equality compares at one link of a chain: the kind's name, the
description and the details. -/
structure Fingerprint where
  kindName : String
  description : String
  details : Option String
  deriving DecidableEq, Hashable, Repr

/-- One error: its kind, its description, its details as given, and its cause. The cause is
the only part that changes after creation. -/
structure ErrorNode where
  kind : Kind
  description : String
  details : Option String
  cause : Option ErrorId
  deriving Repr, Inhabited

/-- The fingerprint of an error node. -/
def ErrorNode.fingerprint (n : ErrorNode) : Fingerprint :=
  ⟨n.kind.name, n.description, n.details⟩

end ErrorTrail
