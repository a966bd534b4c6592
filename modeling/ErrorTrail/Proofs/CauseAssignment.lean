import ErrorTrail.Proofs.Acyclic

/-! # Setting a cause: refused exactly when the target is on the chain of the new cause, by
identity; a refusal changes nothing. -/

namespace ErrorTrail.Heap

variable {h : Heap}

/-- In a heap whose chains end, a cause is refused exactly when the target is a node of the
cause's chain, with the cycle violation that names the target. -/
theorem Linked.setErrorCause_some (hl : h.Linked) (t c : ErrorId) :
    h.setErrorCause t (some c) =
      if t ∈ h.errorChain c then .error (h.errorCycle t)
      else .ok (h.writeErrorCause t (some c)) := by
  rw [setErrorCause, hl.errorChain?_eq_some (hl.errorChain_ends c)]
  simp only [List.contains_iff_mem]

theorem Linked.apply_setErrorCause_of_mem (hl : h.Linked) {t c : ErrorId}
    (hmem : t ∈ h.errorChain c) : h.apply (.setErrorCause t (some c)) = h := by
  rw [apply, hl.setErrorCause_some, if_pos hmem]
  rfl

theorem errorCause_writeErrorCause_self {t : ErrorId} (ht : h.HasError t)
    (cause : Option ErrorId) : (h.writeErrorCause t cause).errorCause t = cause := by
  rw [errorCause, error_writeErrorCause_self h cause ht]

/-- An accepted cause makes the target's chain the target followed by the chain of the cause,
which itself does not change. -/
theorem Linked.errorChain_writeErrorCause_some (hl : h.Linked) {t c : ErrorId}
    (ht : h.HasError t) (hc : h.HasError c) (hnot : t ∉ h.errorChain c) :
    (h.writeErrorCause t (some c)).errorChain t = t :: h.errorChain c := by
  have hchange : Change h (h.writeErrorCause t (some c)) := by
    refine .writeErrorCause t (some c) fun c' hc' => ?_
    cases hc'
    exact ⟨hc, h.errorChain c, hl.errorChain_ends c, hnot⟩
  exact (hl.change hchange).errorChain_eq ((hl.errorChain_ends c).redirect hnot
    (fun _ hx => h.errorCause_writeErrorCause_of_ne (some c) hx)
    (errorCause_writeErrorCause_self ht (some c)))

theorem Linked.errorChain_writeErrorCause_none (hl : h.Linked) {t : ErrorId} (ht : h.HasError t) :
    (h.writeErrorCause t none).errorChain t = [t] := by
  have hchange : Change h (h.writeErrorCause t none) := .writeErrorCause t none (by simp)
  exact (hl.change hchange).errorChain_eq (.last (errorCause_writeErrorCause_self ht none))

/-- How setting an error's cause behaves in a heap: refused, with a cycle violation naming the
target, exactly when the target is a node of the new cause's chain, and then the heap is as it
was; otherwise the target's cause alone changes, and its chain becomes the target followed by
the chain of the cause. Clearing a cause is never refused. -/
structure CauseAssignment (h : Heap) : Prop where
  setErrorCause_some : ∀ t c, h.setErrorCause t (some c) =
    if t ∈ h.errorChain c then .error (.cycle (.error (h.error t).description))
    else .ok (h.writeErrorCause t (some c))
  refused_keeps : ∀ t c, t ∈ h.errorChain c → h.apply (.setErrorCause t (some c)) = h
  cycle_text : ∀ description : String,
    (Violation.cycle (.error description)).className = "CycleError" ∧
      (Subject.error description).text = "error '" ++ description ++ "'"
  errorChain_some : ∀ t c, h.HasError t → h.HasError c → t ∉ h.errorChain c →
    (h.writeErrorCause t (some c)).errorChain t = t :: h.errorChain c
  setErrorCause_none : ∀ t, h.setErrorCause t none = .ok (h.writeErrorCause t none)
  errorChain_none : ∀ t, h.HasError t → (h.writeErrorCause t none).errorChain t = [t]
  error_target : ∀ t cause, h.HasError t →
    (h.writeErrorCause t cause).error t = { h.error t with cause := cause }
  error_other : ∀ t cause e, e ≠ t → (h.writeErrorCause t cause).error e = h.error e
  size_errors : ∀ t cause, (h.writeErrorCause t cause).errors.size = h.errors.size
  collections : ∀ t cause, (h.writeErrorCause t cause).collections = h.collections
  hasher : ∀ t cause, (h.writeErrorCause t cause).hasher = h.hasher

/-- In every reachable heap, setting the cause of `t` to `c` is refused exactly when `t` is a
node of `c`'s chain, by identity, and a refusal leaves the heap as it was; an accepted cause or a
cleared one changes `t`'s cause alone, so that `t`'s chain is `t` followed by `c`'s chain, or
`t` alone. -/
theorem Reachable.causeAssignment (hr : Reachable h) : h.CauseAssignment where
  setErrorCause_some := hr.linked.setErrorCause_some
  refused_keeps _ _ := hr.linked.apply_setErrorCause_of_mem
  cycle_text _ := ⟨rfl, rfl⟩
  errorChain_some _ _ ht hc hnot := hr.linked.errorChain_writeErrorCause_some ht hc hnot
  setErrorCause_none _ := rfl
  errorChain_none _ ht := hr.linked.errorChain_writeErrorCause_none ht
  error_target _ cause ht := h.error_writeErrorCause_self cause ht
  error_other _ cause _ he := h.error_writeErrorCause_of_ne cause he
  size_errors := h.size_errors_writeErrorCause
  collections := h.collections_writeErrorCause
  hasher := h.hasher_writeErrorCause

/-- Two failures with one description are structurally equal but two nodes, so the first
takes the second as its cause. -/
theorem causeAssignment_accepts_structural_twin :
    Reachable ((({} : Heap).apply (.createError Kind.failure "same" none none)).apply
      (.createError Kind.failure "same" none none)) ∧
    let h := (({} : Heap).apply (.createError Kind.failure "same" none none)).apply
      (.createError Kind.failure "same" none none)
    h.CauseAssignment ∧ h.sameError ⟨0⟩ ⟨1⟩ = true ∧
      h.setErrorCause ⟨0⟩ (some ⟨1⟩) = .ok (h.writeErrorCause ⟨0⟩ (some ⟨1⟩)) := by
  have hr : Reachable ((({} : Heap).apply (.createError Kind.failure "same" none none)).apply
      (.createError Kind.failure "same" none none)) := by
    refine .step _ (.step _ (.empty hash) ?_) ?_
    · simp [Op.Valid]
    · simp [Op.Valid]
  have hassign := Reachable.causeAssignment hr
  refine ⟨hr, hassign, by decide, ?_⟩
  rw [hassign.setErrorCause_some, if_neg (by decide)]

/-! ## Setting the cause of a collection -/

theorem collection_writeCollectionCause_self {t : CollectionId} (ht : h.HasCollection t)
    (cause : Option CollectionId) :
    (h.writeCollectionCause t cause).collection t = { h.collection t with cause := cause } :=
  h.collection_modifyCollection_self _ ht

theorem collection_writeCollectionCause_of_ne {t x : CollectionId} (cause : Option CollectionId)
    (hx : x ≠ t) : (h.writeCollectionCause t cause).collection x = h.collection x :=
  h.collection_modifyCollection_of_ne _ hx

theorem collectionCause_writeCollectionCause_self {t : CollectionId} (ht : h.HasCollection t)
    (cause : Option CollectionId) : (h.writeCollectionCause t cause).collectionCause t = cause := by
  rw [collectionCause, collection_writeCollectionCause_self ht]

/-- In a heap whose chains end, a collection given itself as its cause is refused as a
self-reference; any other cause is refused, with a cycle violation, exactly when the target is a
node of the cause's chain. Both violations name the target by its header. -/
theorem Linked.setCollectionCause_some (hl : h.Linked) (t c : CollectionId) :
    h.setCollectionCause t (some c) =
      if c = t then .error (.selfReference (.collection (h.collection t).header))
      else if t ∈ h.collectionChain c then .error (h.collectionCycle t)
      else .ok (h.writeCollectionCause t (some c)) := by
  rw [setCollectionCause, hl.collectionChain?_eq_some (hl.collectionChain_ends c)]
  simp only [List.contains_iff_mem]

theorem Linked.apply_setCollectionCause_of_refused (hl : h.Linked) {t c : CollectionId}
    (hrefused : c = t ∨ t ∈ h.collectionChain c) : h.apply (.setCollectionCause t (some c)) = h := by
  rw [apply, hl.setCollectionCause_some]
  by_cases hself : c = t
  · rw [if_pos hself]
    rfl
  · rw [if_neg hself, if_pos (hrefused.resolve_left hself)]
    rfl

/-- An accepted cause makes the target's chain the target followed by the chain of the cause,
which itself does not change. -/
theorem Linked.collectionChain_writeCollectionCause_some (hl : h.Linked) {t c : CollectionId}
    (ht : h.HasCollection t) (hc : h.HasCollection c) (hnot : t ∉ h.collectionChain c) :
    (h.writeCollectionCause t (some c)).collectionChain t = t :: h.collectionChain c := by
  have hchange : Change h (h.writeCollectionCause t (some c)) := by
    refine .writeCollectionCause t (some c) fun c' hc' => ?_
    cases hc'
    exact ⟨hc, h.collectionChain c, hl.collectionChain_ends c, hnot⟩
  exact (hl.change hchange).collectionChain_eq ((hl.collectionChain_ends c).redirect hnot
    (fun _ hx => h.collectionCause_writeCollectionCause_of_ne (some c) hx)
    (collectionCause_writeCollectionCause_self ht (some c)))

theorem Linked.collectionChain_writeCollectionCause_none (hl : h.Linked) {t : CollectionId}
    (ht : h.HasCollection t) : (h.writeCollectionCause t none).collectionChain t = [t] := by
  have hchange : Change h (h.writeCollectionCause t none) :=
    .writeCollectionCause t none (by simp)
  exact (hl.change hchange).collectionChain_eq
    (.last (collectionCause_writeCollectionCause_self ht none))

/-- How setting a collection's cause behaves in a heap: the collection itself is refused as a
self-reference, and any other cause is refused as a cycle exactly when the target is a node of
the cause's chain, both naming the target by its header; a refusal leaves the heap as it was.
Otherwise the target's cause alone changes, and its chain becomes the target followed by the
chain of the cause. Clearing a cause is never refused. -/
structure CollectionCauseAssignment (h : Heap) : Prop where
  setCollectionCause_some : ∀ t c, h.setCollectionCause t (some c) =
    if c = t then .error (.selfReference (.collection (h.collection t).header))
    else if t ∈ h.collectionChain c then .error (.cycle (.collection (h.collection t).header))
    else .ok (h.writeCollectionCause t (some c))
  refused_keeps : ∀ t c, c = t ∨ t ∈ h.collectionChain c →
    h.apply (.setCollectionCause t (some c)) = h
  violation_text : ∀ header : String,
    (Violation.selfReference (.collection header)).className = "SelfReferenceError" ∧
      (Violation.cycle (.collection header)).className = "CycleError" ∧
      (Subject.collection header).text = "collection '" ++ header ++ "'"
  collectionChain_some : ∀ t c, h.HasCollection t → h.HasCollection c →
    t ∉ h.collectionChain c →
    (h.writeCollectionCause t (some c)).collectionChain t = t :: h.collectionChain c
  setCollectionCause_none : ∀ t, h.setCollectionCause t none = .ok (h.writeCollectionCause t none)
  collectionChain_none : ∀ t, h.HasCollection t →
    (h.writeCollectionCause t none).collectionChain t = [t]
  collection_target : ∀ t cause, h.HasCollection t →
    (h.writeCollectionCause t cause).collection t = { h.collection t with cause := cause }
  collection_other : ∀ t cause x, x ≠ t →
    (h.writeCollectionCause t cause).collection x = h.collection x
  size_collections : ∀ t cause,
    (h.writeCollectionCause t cause).collections.size = h.collections.size
  errors : ∀ t cause, (h.writeCollectionCause t cause).errors = h.errors
  hasher : ∀ t cause, (h.writeCollectionCause t cause).hasher = h.hasher

/-- In every reachable heap, setting the cause of collection `t` to `c` is refused as a
self-reference when `c` is `t`, and otherwise as a cycle exactly when `t` is a node of `c`'s
chain; a refusal leaves the heap as it was. An accepted cause or a cleared one changes `t`'s
cause alone, so that `t`'s chain is `t` followed by `c`'s chain, or `t` alone. -/
theorem Reachable.collectionCauseAssignment (hr : Reachable h) : h.CollectionCauseAssignment where
  setCollectionCause_some := hr.linked.setCollectionCause_some
  refused_keeps _ _ := hr.linked.apply_setCollectionCause_of_refused
  violation_text _ := ⟨rfl, rfl, rfl⟩
  collectionChain_some _ _ ht hc hnot := hr.linked.collectionChain_writeCollectionCause_some ht hc hnot
  setCollectionCause_none _ := rfl
  collectionChain_none _ ht := hr.linked.collectionChain_writeCollectionCause_none ht
  collection_target _ cause ht := collection_writeCollectionCause_self ht cause
  collection_other _ cause _ hx := collection_writeCollectionCause_of_ne cause hx
  size_collections := h.size_collections_writeCollectionCause
  errors := h.errors_writeCollectionCause
  hasher := h.hasher_writeCollectionCause

/-- Two collections, the second caused by the first: the first is refused the second as its
cause, and itself. -/
theorem collectionCauseAssignment_refuses_loop_and_self :
    Reachable ((({} : Heap).apply (.emptyCollection "a" "a")
      |>.apply (.emptyCollection "b" "b"))
      |>.apply (.setCollectionCause ⟨1⟩ (some ⟨0⟩))) ∧
    let h := (({} : Heap).apply (.emptyCollection "a" "a")
      |>.apply (.emptyCollection "b" "b"))
      |>.apply (.setCollectionCause ⟨1⟩ (some ⟨0⟩))
    h.CollectionCauseAssignment ∧
      h.setCollectionCause ⟨0⟩ (some ⟨1⟩) = .error (.cycle (.collection "a")) ∧
      h.setCollectionCause ⟨0⟩ (some ⟨0⟩) = .error (.selfReference (.collection "a")) := by
  have hr : Reachable ((({} : Heap).apply (.emptyCollection "a" "a")
      |>.apply (.emptyCollection "b" "b"))
      |>.apply (.setCollectionCause ⟨1⟩ (some ⟨0⟩))) := by
    refine .step _ (.step _ (.step _ (.empty hash) ?_) ?_) ?_
    · trivial
    · trivial
    · simp only [Op.Valid, Option.some.injEq, forall_eq']
      decide
  have hassign := Reachable.collectionCauseAssignment hr
  refine ⟨hr, hassign, ?_, ?_⟩
  · rw [hassign.setCollectionCause_some, if_neg (by decide), if_pos (by decide)]
    rfl
  · rw [hassign.setCollectionCause_some, if_pos rfl]
    rfl

end ErrorTrail.Heap
