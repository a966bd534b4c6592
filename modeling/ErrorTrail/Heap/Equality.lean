import ErrorTrail.Heap.Chain

/-! # Structural equality: two chains compared link by link, stopping at the first node both
sides share. -/

namespace ErrorTrail

namespace Heap

/-- Compares two chains link by link; the same node at the same step settles it. -/
def sameChains (h : Heap) : List ErrorId → List ErrorId → Bool
  | [], [] => true
  | a :: as, b :: bs => a == b || (h.fingerprint a == h.fingerprint b && h.sameChains as bs)
  | _, _ => false

/-- Structural equality of two errors. -/
def sameError (h : Heap) (a b : ErrorId) : Bool :=
  h.sameChains (h.errorChain a) (h.errorChain b)

end Heap

/-- Whether the set holds an error structurally equal to `e`; only the positions recorded
under the hash of `e`'s fingerprint are looked at. -/
def ErrorSet.contains (s : ErrorSet) (h : Heap) (e : ErrorId) : Bool :=
  (s.positions (s.hasher (h.fingerprint e))).any fun i =>
    match s.items[i]? with
    | some x => h.sameError x e
    | none => false

end ErrorTrail
