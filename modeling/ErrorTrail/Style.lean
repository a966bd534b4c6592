/-! # Styles: link texts, a separator, details shown or hidden, and a depth limit of at least
one. -/

namespace ErrorTrail

/-- A rendering style. -/
structure Style where
  errorLink : String
  collectionLink : String
  listSeparator : String
  includeDetails : Bool
  maxDepth : Option Nat
  deriving DecidableEq, Repr

namespace Style

/-- Everything shown, whole chains, with arrows between links. -/
def full : Style where
  errorLink := " <-- "
  collectionLink := " <== "
  listSeparator := ", "
  includeDetails := true
  maxDepth := none

/-- The full style without details, for readers who must not see raw failure texts. -/
def redacted : Style :=
  { full with includeDetails := false }

/-- The style with another text between the errors of a chain. -/
def withErrorLink (s : Style) (link : String) : Style :=
  { s with errorLink := link }

/-- The style with another text between the collections of a chain. -/
def withCollectionLink (s : Style) (link : String) : Style :=
  { s with collectionLink := link }

/-- The style with another separator between the errors of a collection. -/
def withListSeparator (s : Style) (separator : String) : Style :=
  { s with listSeparator := separator }

/-- The style with details shown or hidden. -/
def withDetails (s : Style) (shown : Bool) : Style :=
  { s with includeDetails := shown }

/-- The style that shows at most `depth` links of a chain, and at least one. -/
def withMaxDepth (s : Style) (depth : Nat) : Style :=
  { s with maxDepth := some (max depth 1) }

end Style

end ErrorTrail
