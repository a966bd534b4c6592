import Std.Data.HashMap
import ErrorTrail.Heap.Node

/-! # Error sets: errors in insertion order, indexed by the hash of their fingerprints under a
hash function of the set's own. -/

namespace ErrorTrail

/-- Errors in insertion order, indexed by the hashes of their fingerprints. -/
structure ErrorSet where
  items : Array ErrorId
  index : Std.HashMap UInt64 (List Nat)
  hasher : Fingerprint → UInt64

namespace ErrorSet

/-- The set with no errors, hashing with `hasher`. -/
def empty (hasher : Fingerprint → UInt64) : ErrorSet := ⟨#[], ∅, hasher⟩

/-- The positions recorded under a hash. -/
def positions (s : ErrorSet) (key : UInt64) : List Nat :=
  s.index.getD key []

/-- Appends an error with the given fingerprint, recording its position under the hash of the
fingerprint. -/
def insert (s : ErrorSet) (print : Fingerprint) (e : ErrorId) : ErrorSet :=
  let key := s.hasher print
  ⟨s.items.push e, s.index.insert key (s.positions key ++ [s.items.size]), s.hasher⟩

/-- The errors, in insertion order. -/
def toList (s : ErrorSet) : List ErrorId :=
  s.items.toList

/-- The number of errors. -/
def size (s : ErrorSet) : Nat :=
  s.items.size

@[simp] theorem toList_empty (hasher : Fingerprint → UInt64) : (empty hasher).toList = [] := rfl

@[simp] theorem length_toList (s : ErrorSet) : s.toList.length = s.size := by
  simp [toList, size]

@[simp] theorem toList_insert (s : ErrorSet) (print : Fingerprint) (e : ErrorId) :
    (s.insert print e).toList = s.toList ++ [e] := by
  simp [insert, toList]

end ErrorSet

end ErrorTrail
