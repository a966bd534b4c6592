import ErrorTrail.Proofs.Equality

/-! # The index of an error set: the hashed membership test is the linear scan, whatever the
hash functions. -/

namespace ErrorTrail

namespace ErrorSet

/-- The index is right for the fingerprints `fp`: it records only positions of the set, and
each position exactly once, under the hash of its error's fingerprint. -/
structure Indexed (s : ErrorSet) (fp : ErrorId → Fingerprint) : Prop where
  lt_size : ∀ key i, i ∈ s.positions key → i < s.size
  count_positions : ∀ key i x, s.items[i]? = some x →
    (s.positions key).count i = if s.hasher (fp x) = key then 1 else 0

variable {s : ErrorSet} {fp fp' : ErrorId → Fingerprint}

@[simp] theorem items_insert (s : ErrorSet) (print : Fingerprint) (e : ErrorId) :
    (s.insert print e).items = s.items.push e := rfl

@[simp] theorem hasher_insert (s : ErrorSet) (print : Fingerprint) (e : ErrorId) :
    (s.insert print e).hasher = s.hasher := rfl

@[simp] theorem size_insert (s : ErrorSet) (print : Fingerprint) (e : ErrorId) :
    (s.insert print e).size = s.size + 1 := by
  simp [insert, size]

theorem positions_insert (s : ErrorSet) (print : Fingerprint) (e : ErrorId) (key : UInt64) :
    (s.insert print e).positions key =
      if s.hasher print = key then s.positions key ++ [s.size] else s.positions key := by
  unfold insert positions
  rw [Std.HashMap.getD_insert]
  by_cases hkey : s.hasher print = key
  · subst hkey
    simp [size]
  · simp [hkey]

@[simp] theorem positions_empty (hasher : Fingerprint → UInt64) (key : UInt64) :
    (empty hasher).positions key = [] := by
  simp [empty, positions]

theorem indexed_empty (hasher : Fingerprint → UInt64) : (empty hasher).Indexed fp where
  lt_size key i hi := by simp at hi
  count_positions key i x hx := by simp [empty] at hx

/-- Appending an error under its fingerprint keeps the index right. -/
theorem Indexed.insert (hs : s.Indexed fp) (e : ErrorId) : (s.insert (fp e) e).Indexed fp where
  lt_size key i hi := by
    rw [positions_insert] at hi
    rw [size_insert]
    split at hi
    · rcases List.mem_append.mp hi with hi | hi
      · exact Nat.lt_succ_of_lt (hs.lt_size key i hi)
      · rw [List.mem_singleton.mp hi]
        exact Nat.lt_succ_self _
    · exact Nat.lt_succ_of_lt (hs.lt_size key i hi)
  count_positions key i x hx := by
    rw [items_insert, Array.getElem?_push] at hx
    rw [positions_insert, hasher_insert]
    by_cases hnew : i = s.size
    · -- the new position is recorded under the new error's hash only
      subst hnew
      have hx : e = x := by simpa [size] using hx
      subst hx
      have hold : (s.positions key).count s.size = 0 :=
        List.count_eq_zero.mpr fun hmem => Nat.lt_irrefl _ (hs.lt_size key _ hmem)
      split <;> simp [*]
    · -- an old position keeps its count
      have hnew : i ≠ s.items.size := hnew
      have hx : s.items[i]? = some x := by simpa [hnew] using hx
      have hold := hs.count_positions key i x hx
      have hsize : s.size ≠ i := Ne.symm hnew
      split <;> simp [List.count_append, hold, hsize]

/-- The set after inserting the errors of a list in order, each under its fingerprint: the
set of the errors seen so far while a list is searched for a duplicate. -/
def insertAll (s : ErrorSet) (fp : ErrorId → Fingerprint) (l : List ErrorId) : ErrorSet :=
  l.foldl (fun b x => b.insert (fp x) x) s

@[simp] theorem insertAll_nil : s.insertAll fp [] = s := rfl

@[simp] theorem insertAll_cons (e : ErrorId) (l : List ErrorId) :
    s.insertAll fp (e :: l) = (s.insert (fp e) e).insertAll fp l := rfl

@[simp] theorem toList_insertAll (l : List ErrorId) :
    (s.insertAll fp l).toList = s.toList ++ l := by
  induction l generalizing s with
  | nil => simp
  | cons e rest ih => rw [insertAll_cons, ih, toList_insert, List.append_assoc, List.singleton_append]

theorem Indexed.insertAll (hs : s.Indexed fp) (l : List ErrorId) : (s.insertAll fp l).Indexed fp := by
  induction l generalizing s with
  | nil => exact hs
  | cons e rest ih => exact ih (hs.insert e)

/-- The index stays right under new fingerprints that agree on the stored errors. -/
theorem Indexed.congr (hs : s.Indexed fp) (hagree : ∀ x ∈ s.toList, fp' x = fp x) :
    s.Indexed fp' where
  lt_size := hs.lt_size
  count_positions key i x hx := by
    have hmem : x ∈ s.toList := by
      rw [toList, Array.mem_toList_iff]
      exact Array.mem_of_getElem? hx
    rw [hagree x hmem]
    exact hs.count_positions key i x hx

theorem Indexed.mem_positions_iff (hs : s.Indexed fp) {key : UInt64} {i : Nat} {x : ErrorId}
    (hx : s.items[i]? = some x) : i ∈ s.positions key ↔ s.hasher (fp x) = key := by
  rw [← List.count_pos_iff, hs.count_positions key i x hx]
  split <;> simp_all

/-- With a right index, the indexed membership test is the linear scan: looking only under the
hash of `e`'s fingerprint misses no equal error, since equal errors have equal fingerprints. -/
theorem Indexed.contains_eq_any {h : Heap} (hs : s.Indexed h.fingerprint) (e : ErrorId) :
    s.contains h e = s.toList.any (h.sameError · e) := by
  rw [Bool.eq_iff_iff, contains, List.any_eq_true, List.any_eq_true]
  constructor
  · rintro ⟨i, -, hmatch⟩
    cases hx : s.items[i]? with
    | none => simp [hx] at hmatch
    | some x =>
        simp only [hx] at hmatch
        exact ⟨x, by simpa [toList] using Array.mem_of_getElem? hx, hmatch⟩
  · rintro ⟨x, hmem, hsame⟩
    obtain ⟨i, hx⟩ := Array.getElem?_of_mem (by simpa [toList] using hmem)
    refine ⟨i, ?_, by simp only [hx, hsame]⟩
    rw [hs.mem_positions_iff hx, Heap.fingerprint_eq_of_sameError hsame]

end ErrorSet

namespace Heap

/-! ## Collections after appending -/

section Appending

variable {h : Heap}

theorem collection_pushLocal_self {c : CollectionId} (hc : h.HasCollection c) (e : ErrorId) :
    (h.pushLocal c e).collection c =
      { h.collection c with errors := (h.collection c).errors.insert (h.fingerprint e) e } :=
  h.collection_modifyCollection_self _ hc

theorem collection_pushLocal_of_ne {c x : CollectionId} (e : ErrorId) (hx : x ≠ c) :
    (h.pushLocal c e).collection x = h.collection x :=
  h.collection_modifyCollection_of_ne _ hx

@[simp] theorem size_collections_pushLocal (c : CollectionId) (e : ErrorId) :
    (h.pushLocal c e).collections.size = h.collections.size := by
  simp [pushLocal]

theorem HasCollection.pushLocal {x : CollectionId} (hx : h.HasCollection x) (c : CollectionId)
    (e : ErrorId) : (h.pushLocal c e).HasCollection x := by
  simpa [HasCollection] using hx

theorem localErrors_pushLocal_self {c : CollectionId} (hc : h.HasCollection c) (e : ErrorId) :
    (h.pushLocal c e).localErrors c = h.localErrors c ++ [e] := by
  simp [localErrors, collection_pushLocal_self hc]

theorem localErrors_pushLocal_of_ne {c x : CollectionId} (e : ErrorId) (hx : x ≠ c) :
    (h.pushLocal c e).localErrors x = h.localErrors x := by
  simp [localErrors, collection_pushLocal_of_ne e hx]

theorem localErrors_pushAll_self {c : CollectionId} (hc : h.HasCollection c)
    (errors : List ErrorId) : (h.pushAll c errors).localErrors c = h.localErrors c ++ errors := by
  induction errors generalizing h with
  | nil => simp [pushAll]
  | cons e rest ih =>
      rw [pushAll, List.foldl_cons, ← pushAll, ih (hc.pushLocal c e), localErrors_pushLocal_self hc]
      simp

theorem localErrors_pushAll_of_ne {c x : CollectionId} (errors : List ErrorId) (hx : x ≠ c) :
    (h.pushAll c errors).localErrors x = h.localErrors x :=
  h.pushAll_keeps (·.localErrors x) c (fun _ e => localErrors_pushLocal_of_ne e hx) errors

end Appending

/-! ## Every collection's set, in every reachable heap -/

/-- Every collection holds live errors only, and its index is right for the heap's
fingerprints. -/
structure SetsIndexed (h : Heap) : Prop where
  live : ∀ c, ∀ e ∈ h.localErrors c, h.HasError e
  indexed : ∀ c, (h.collection c).errors.Indexed h.fingerprint

section Fingerprints

variable {h h' : Heap}

theorem fingerprint_of_errors_eq (heq : h'.errors = h.errors) : h'.fingerprint = h.fingerprint := by
  funext e
  simp only [fingerprint, error, heq]

theorem fingerprint_allocError_of_hasError (n : ErrorNode) {e : ErrorId} (he : h.HasError e) :
    (h.allocError n).1.fingerprint e = h.fingerprint e := by
  simp only [fingerprint, h.error_allocError_of_lt n he]

theorem sameChains_of_errors_eq (heq : h'.errors = h.errors) : h'.sameChains = h.sameChains := by
  funext la lb
  induction la generalizing lb with
  | nil => cases lb <;> rfl
  | cons a as ih =>
      cases lb with
      | nil => rfl
      | cons b bs => simp only [sameChains, fingerprint_of_errors_eq heq, ih]

theorem errorChain_of_errors_eq (heq : h'.errors = h.errors) : h'.errorChain = h.errorChain := by
  have hcause : h'.errorCause = h.errorCause := by
    funext e
    simp only [errorCause, error, heq]
  exact errorChain_of_causes_eq hcause (by rw [heq])

/-- Structural equality reads the error nodes only, so a change of collections keeps it. -/
theorem sameError_of_errors_eq (heq : h'.errors = h.errors) : h'.sameError = h.sameError := by
  funext a b
  simp only [sameError, sameChains_of_errors_eq heq, errorChain_of_errors_eq heq]

/-- A cause is no part of a fingerprint. -/
theorem fingerprint_writeErrorCause (t : ErrorId) (cause : Option ErrorId) :
    (h.writeErrorCause t cause).fingerprint = h.fingerprint := by
  funext e
  simp only [fingerprint, error, writeErrorCause, Array.getElem?_modify]
  split
  · cases h.errors[e.index]? <;> rfl
  · rfl

end Fingerprints

section Invariant

variable {h h' : Heap}

theorem SetsIndexed.empty (hasher : Fingerprint → UInt64) : SetsIndexed { hasher := hasher } where
  live c e he := by simp [localErrors, collection] at he
  indexed c := by
    have hdefault : ({ hasher := hasher } : Heap).collection c = default := by simp [collection]
    rw [hdefault, errors_default_collectionNode]
    exact ErrorSet.indexed_empty hash

/-- A change that keeps every set and every live error's fingerprint, and keeps live errors
live, keeps the sets indexed. -/
theorem SetsIndexed.of_sets_eq (hs : h.SetsIndexed)
    (hsets : ∀ c, (h'.collection c).errors = (h.collection c).errors)
    (hprint : ∀ e, h.HasError e → h'.fingerprint e = h.fingerprint e)
    (hlive : ∀ e, h.HasError e → h'.HasError e) : h'.SetsIndexed where
  live c e he := by
    rw [localErrors, hsets c] at he
    exact hlive e (hs.live c e he)
  indexed c := by
    rw [hsets c]
    exact (hs.indexed c).congr fun x hx => hprint x (hs.live c x hx)

/-- Appending an error to a live collection keeps every set indexed, whether or not the error is
live. -/
theorem indexed_pushLocal (hidx : ∀ x, (h.collection x).errors.Indexed h.fingerprint)
    {c : CollectionId} (hc : h.HasCollection c) (e : ErrorId) (x : CollectionId) :
    ((h.pushLocal c e).collection x).errors.Indexed (h.pushLocal c e).fingerprint := by
  have hprint : (h.pushLocal c e).fingerprint = h.fingerprint := fingerprint_of_errors_eq rfl
  rw [hprint]
  by_cases hx : x = c
  · subst hx
    rw [collection_pushLocal_self hc]
    exact (hidx x).insert e
  · rw [collection_pushLocal_of_ne e hx]
    exact hidx x

theorem indexed_allocCollection (hidx : ∀ x, (h.collection x).errors.Indexed h.fingerprint)
    (category header : String) (x : CollectionId) :
    ((h.allocCollection ⟨category, header, ErrorSet.empty h.hasher, none⟩).1.collection x).errors.Indexed
      (h.allocCollection ⟨category, header, ErrorSet.empty h.hasher, none⟩).1.fingerprint := by
  have hprint := fingerprint_of_errors_eq (errors_allocCollection h
    ⟨category, header, ErrorSet.empty h.hasher, none⟩)
  rw [hprint]
  by_cases hx : x = ⟨h.collections.size⟩
  · subst hx
    rw [collection_allocCollection_fresh]
    exact ErrorSet.indexed_empty h.hasher
  · rw [collection_allocCollection_of_ne _ _ hx]
    exact hidx x

theorem SetsIndexed.pushLocal (hs : h.SetsIndexed) {c : CollectionId} (hc : h.HasCollection c)
    {e : ErrorId} (he : h.HasError e) : (h.pushLocal c e).SetsIndexed where
  live x y hy := by
    have hlive : (h.pushLocal c e).HasError = h.HasError := rfl
    rw [hlive]
    by_cases hx : x = c
    · subst hx
      rw [localErrors_pushLocal_self hc, List.mem_append, List.mem_singleton] at hy
      rcases hy with hy | rfl
      · exact hs.live x y hy
      · exact he
    · rw [localErrors_pushLocal_of_ne e hx] at hy
      exact hs.live x y hy
  indexed := indexed_pushLocal hs.indexed hc e

theorem SetsIndexed.pushAll (hs : h.SetsIndexed) {c : CollectionId} (hc : h.HasCollection c)
    {errors : List ErrorId} (herrors : ∀ e ∈ errors, h.HasError e) :
    (h.pushAll c errors).SetsIndexed := by
  induction errors generalizing h with
  | nil => exact hs
  | cons e rest ih =>
      rw [pushAll, List.foldl_cons, ← pushAll]
      exact ih (hs.pushLocal hc (herrors e List.mem_cons_self)) (hc.pushLocal c e)
        fun x hx => herrors x (List.mem_cons_of_mem e hx)

theorem SetsIndexed.allocCollection (hs : h.SetsIndexed) (category header : String) :
    (h.allocCollection ⟨category, header, ErrorSet.empty h.hasher, none⟩).1.SetsIndexed where
  live c e he := by
    by_cases hc : c = ⟨h.collections.size⟩
    · subst hc
      simp [localErrors, collection_allocCollection_fresh] at he
    · rw [localErrors, collection_allocCollection_of_ne _ _ hc] at he
      exact hs.live c e he
  indexed := indexed_allocCollection hs.indexed category header

/-- Every change keeps every collection's set indexed. -/
theorem SetsIndexed.change (hs : h.SetsIndexed) (hc : Change h h') : h'.SetsIndexed := by
  cases hc with
  | keep => exact hs
  | allocError node _ =>
      refine hs.of_sets_eq (fun c => rfl) (fun e he => fingerprint_allocError_of_hasError node he)
        fun e he => ?_
      simp only [HasError, size_errors_allocError] at he ⊢
      omega
  | writeErrorCause t cause _ =>
      exact hs.of_sets_eq (fun c => rfl)
        (fun e _ => by rw [fingerprint_writeErrorCause]) fun e he => by simpa [HasError] using he
  | allocCollection category header errors herrors =>
      exact (hs.allocCollection category header).pushAll (hasCollection_allocCollection_fresh h _)
        herrors
  | pushAll c errors hc herrors => exact hs.pushAll hc herrors
  | writeCollectionCause t cause _ =>
      exact hs.of_sets_eq (h.errors_collection_writeCollectionCause t cause) (fun e _ => rfl)
        fun e he => he
  | rekey hasher =>
      -- sets keep the hash function they were made with
      exact hs.of_sets_eq (fun c => rfl) (fun e _ => rfl) fun e he => he

theorem Reachable.setsIndexed {h : Heap} (hr : Reachable h) : h.SetsIndexed :=
  Reachable.invariant SetsIndexed.empty (fun hs hc => hs.change hc) hr

end Invariant

/-! ## Membership tests against the linear scan -/

section Scan

variable {h : Heap}

/-- The first error of a list equal to one of `held` or to an earlier error of the list, found by
comparing it with each of them in turn. -/
def firstEqual? (h : Heap) (held : List ErrorId) : List ErrorId → Option ErrorId
  | [] => none
  | e :: rest => if held.any (h.sameError · e) then some e else h.firstEqual? (held ++ [e]) rest

theorem SetsIndexed.containsLocal_eq_any (hs : h.SetsIndexed) (c : CollectionId) (e : ErrorId) :
    h.containsLocal c e = (h.localErrors c).any (h.sameError · e) :=
  (hs.indexed c).contains_eq_any e

/-- The search for a duplicate in a list, which tests the collection's set and a set of the
errors seen so far, is the linear scan over both. -/
theorem SetsIndexed.firstDuplicate?_eq (hs : h.SetsIndexed) (c : CollectionId) {batch : ErrorSet}
    (hbatch : batch.Indexed h.fingerprint) (l : List ErrorId) :
    h.firstDuplicate? c batch l = h.firstEqual? (h.localErrors c ++ batch.toList) l := by
  induction l generalizing batch with
  | nil => rfl
  | cons e rest ih =>
      have hcontains : (h.containsLocal c e || batch.contains h e) =
          (h.localErrors c ++ batch.toList).any (h.sameError · e) := by
        rw [hs.containsLocal_eq_any, hbatch.contains_eq_any, List.any_append]
      rw [firstDuplicate?, firstEqual?, hcontains, ih (hbatch.insert e), ErrorSet.toList_insert,
        List.append_assoc]

/-- In every reachable heap, whatever the hash function of its sets, every error set is indexed
and its membership test is the linear scan for a structurally equal error: each collection's own
set, and the set of the errors seen so far that the insertion of a list builds, so that the
search for a duplicate in a list is the linear scan too. Changes of cause after insertion are
steps of the run like any other. -/
theorem Reachable.contains_eq_any_sameError {h : Heap} (hr : Reachable h) :
    (∀ c, (h.collection c).errors.Indexed h.fingerprint ∧
      ∀ e, h.containsLocal c e = (h.localErrors c).any (h.sameError · e)) ∧
    (∀ l, ((ErrorSet.empty h.hasher).insertAll h.fingerprint l).Indexed h.fingerprint ∧
      ∀ e, ((ErrorSet.empty h.hasher).insertAll h.fingerprint l).contains h e =
        l.any (h.sameError · e)) ∧
    (∀ c l, h.firstDuplicate? c (ErrorSet.empty h.hasher) l = h.firstEqual? (h.localErrors c) l) := by
  have hs := hr.setsIndexed
  have hempty : (ErrorSet.empty h.hasher).Indexed h.fingerprint := ErrorSet.indexed_empty h.hasher
  refine ⟨fun c => ⟨hs.indexed c, hs.containsLocal_eq_any c⟩, fun l => ?_, fun c l => ?_⟩
  · have hbatch := hempty.insertAll l
    refine ⟨hbatch, fun e => ?_⟩
    rw [hbatch.contains_eq_any, ErrorSet.toList_insertAll, ErrorSet.toList_empty, List.nil_append]
  · rw [hs.firstDuplicate?_eq c hempty, ErrorSet.toList_empty, List.append_nil]

/-- Two errors that share a bucket under a hash that sends every fingerprint to one key, in a
collection, after one of them is given the other as its cause. -/
theorem contains_eq_any_sameError_in_one_bucket :
    Reachable (((({ hasher := fun _ => 0 } : Heap).apply
        (.createError Kind.failure "disk full" none none)
      |>.apply (.createError Kind.failure "write failed" none none))
      |>.apply (.createCollection "io" "backup" [⟨0⟩, ⟨1⟩]))
      |>.apply (.setErrorCause ⟨1⟩ (some ⟨0⟩))) ∧
    let h := ((({ hasher := fun _ => 0 } : Heap).apply
        (.createError Kind.failure "disk full" none none)
      |>.apply (.createError Kind.failure "write failed" none none))
      |>.apply (.createCollection "io" "backup" [⟨0⟩, ⟨1⟩]))
      |>.apply (.setErrorCause ⟨1⟩ (some ⟨0⟩))
    (∀ c, (h.collection c).errors.Indexed h.fingerprint ∧
      ∀ e, h.containsLocal c e = (h.localErrors c).any (h.sameError · e)) ∧
    (∀ l, ((ErrorSet.empty h.hasher).insertAll h.fingerprint l).Indexed h.fingerprint ∧
      ∀ e, ((ErrorSet.empty h.hasher).insertAll h.fingerprint l).contains h e =
        l.any (h.sameError · e)) ∧
    (∀ c l, h.firstDuplicate? c (ErrorSet.empty h.hasher) l = h.firstEqual? (h.localErrors c) l) := by
  have hr : Reachable (((({ hasher := fun _ => 0 } : Heap).apply
        (.createError Kind.failure "disk full" none none)
      |>.apply (.createError Kind.failure "write failed" none none))
      |>.apply (.createCollection "io" "backup" [⟨0⟩, ⟨1⟩]))
      |>.apply (.setErrorCause ⟨1⟩ (some ⟨0⟩))) := by
    refine .step _ (.step _ (.step _ (.step _ (.empty _) ?_) ?_) ?_) ?_
    · simp [Op.Valid]
    · simp [Op.Valid]
    · simp only [Op.Valid, List.mem_cons, List.not_mem_nil, or_false, forall_eq_or_imp, forall_eq]
      decide
    · simp only [Op.Valid, Option.some.injEq, forall_eq']
      decide +kernel
  exact ⟨hr, Reachable.contains_eq_any_sameError hr⟩

end Scan

end Heap

end ErrorTrail
