import ErrorTrail.Proofs.Reachable

/-! # Cause chains end: in every reachable heap both cause graphs are acyclic, so the cycle
checks always find the chain they walk. -/

namespace ErrorTrail

theorem ErrorId.index_injective : Function.Injective ErrorId.index := by
  intro x y hxy
  by_contra hne
  exact ErrorId.index_ne_of_ne hne hxy

theorem CollectionId.index_injective : Function.Injective CollectionId.index := by
  intro x y hxy
  by_contra hne
  exact CollectionId.index_ne_of_ne hne hxy

end ErrorTrail

namespace ErrorTrail.Heap

/-- Causes point at live nodes and every chain ends, for errors and for collections. -/
structure Linked (h : Heap) : Prop where
  errors : Links.Sound h.errorCause h.HasError
  collections : Links.Sound h.collectionCause h.HasCollection

/-! ## Nodes outside the heap, and changes that keep a kind of node -/

section Frames

variable {h h' : Heap}

theorem errorCause_of_not_hasError {e : ErrorId} (he : ¬ h.HasError e) : h.errorCause e = none := by
  have hnone : h.errors[e.index]? = none := Array.getElem?_eq_none (Nat.le_of_not_lt he)
  simp only [errorCause, error, hnone, Option.getD_none]
  rfl

theorem collectionCause_of_not_hasCollection {c : CollectionId} (hc : ¬ h.HasCollection c) :
    h.collectionCause c = none := by
  have hnone : h.collections[c.index]? = none := Array.getElem?_eq_none (Nat.le_of_not_lt hc)
  simp only [collectionCause, collection, hnone, Option.getD_none]
  rfl

theorem sound_errors_of_errors_eq (heq : h'.errors = h.errors)
    (hs : Links.Sound h.errorCause h.HasError) : Links.Sound h'.errorCause h'.HasError := by
  have hcause : h'.errorCause = h.errorCause := by
    funext e
    simp only [errorCause, error, heq]
  have hlive : h'.HasError = h.HasError := by
    funext e
    simp only [HasError, heq]
  rwa [hcause, hlive]

theorem sound_collections_of_eq (hcause : h'.collectionCause = h.collectionCause)
    (hsize : h'.collections.size = h.collections.size)
    (hs : Links.Sound h.collectionCause h.HasCollection) :
    Links.Sound h'.collectionCause h'.HasCollection := by
  have hlive : h'.HasCollection = h.HasCollection := by
    funext c
    simp only [HasCollection, hsize]
  rwa [hcause, hlive]

end Frames

/-! ## The invariant -/

theorem Linked.empty (hasher : Fingerprint → UInt64) : Linked { hasher := hasher } where
  errors :=
    { next_live := fun e c he => by simp [errorCause_of_not_hasError, HasError] at he
      acyclic := fun e => ⟨[e], .last (errorCause_of_not_hasError (by simp [HasError]))⟩ }
  collections :=
    { next_live := fun d c hd => by
        simp [collectionCause_of_not_hasCollection, HasCollection] at hd
      acyclic := fun c =>
        ⟨[c], .last (collectionCause_of_not_hasCollection (by simp [HasCollection]))⟩ }

/-- A new error is a node no cause points at, and its cause is live. -/
theorem sound_allocError {h : Heap} (hs : Links.Sound h.errorCause h.HasError)
    (node : ErrorNode) (hcause : ∀ c, node.cause = some c → h.HasError c) :
    Links.Sound (h.allocError node).1.errorCause (h.allocError node).1.HasError := by
  apply hs.update (t := ⟨h.errors.size⟩)
  · intro e he
    simp only [HasError, size_errors_allocError] at he ⊢
    omega
  · intro e he
    exact h.errorCause_allocError_of_ne node he
  · intro c hc
    rw [errorCause_allocError_self] at hc
    have hlive := hcause c hc
    obtain ⟨l, hl⟩ := hs.acyclic c
    refine ⟨?_, l, hl, hs.not_mem_of_not_live hl hlive (by simp [HasError])⟩
    simp only [HasError, size_errors_allocError] at hlive ⊢
    omega

theorem sound_writeErrorCause {h : Heap} (hs : Links.Sound h.errorCause h.HasError)
    (t : ErrorId) (cause : Option ErrorId)
    (hcause : ∀ c, cause = some c → h.HasError c ∧ ∃ l, Links.Ends h.errorCause c l ∧ t ∉ l) :
    Links.Sound (h.writeErrorCause t cause).errorCause (h.writeErrorCause t cause).HasError := by
  apply hs.update (t := t)
  · intro e he
    simpa [HasError] using he
  · intro e he
    exact h.errorCause_writeErrorCause_of_ne cause he
  · intro c hc
    obtain ⟨hlive, hchain⟩ := hcause c (h.eq_of_errorCause_writeErrorCause_self hc)
    exact ⟨by simpa [HasError] using hlive, hchain⟩

/-- A new collection has no cause, and errors appended to collections change no cause. -/
theorem sound_allocCollection {h : Heap}
    (hs : Links.Sound h.collectionCause h.HasCollection) (category header : String)
    (errors : List ErrorId) :
    let h' := (h.allocCollection ⟨category, header, ErrorSet.empty h.hasher, none⟩).1.pushAll
      ⟨h.collections.size⟩ errors
    Links.Sound h'.collectionCause h'.HasCollection := by
  intro h'
  apply sound_collections_of_eq (collectionCause_pushAll _ _ _) (size_collections_pushAll _ _ _)
  apply hs.update (t := ⟨h.collections.size⟩)
  · intro c hc
    simp only [HasCollection, size_collections_allocCollection] at hc ⊢
    omega
  · intro c hc
    exact h.collectionCause_allocCollection_of_ne _ hc
  · intro c hc
    simp [collectionCause_allocCollection_self] at hc

theorem sound_writeCollectionCause {h : Heap}
    (hs : Links.Sound h.collectionCause h.HasCollection) (t : CollectionId)
    (cause : Option CollectionId)
    (hcause : ∀ c, cause = some c →
      h.HasCollection c ∧ ∃ l, Links.Ends h.collectionCause c l ∧ t ∉ l) :
    Links.Sound (h.writeCollectionCause t cause).collectionCause
      (h.writeCollectionCause t cause).HasCollection := by
  apply hs.update (t := t)
  · intro c hc
    simpa [HasCollection] using hc
  · intro c hc
    exact h.collectionCause_writeCollectionCause_of_ne cause hc
  · intro c hc
    obtain ⟨hlive, hchain⟩ := hcause c (h.eq_of_collectionCause_writeCollectionCause_self hc)
    exact ⟨by simpa [HasCollection] using hlive, hchain⟩

/-- Every change keeps the causes linked. -/
theorem Linked.change {h h' : Heap} (hl : h.Linked) (hc : Change h h') : h'.Linked := by
  cases hc with
  | keep => exact hl
  | allocError node hcause =>
      exact ⟨sound_allocError hl.errors node hcause, sound_collections_of_eq rfl rfl hl.collections⟩
  | writeErrorCause t cause hcause =>
      exact ⟨sound_writeErrorCause hl.errors t cause hcause,
        sound_collections_of_eq rfl rfl hl.collections⟩
  | allocCollection category header errors _ =>
      exact ⟨sound_errors_of_errors_eq (by simp) hl.errors,
        sound_allocCollection hl.collections category header errors⟩
  | pushAll c errors _ _ =>
      exact ⟨sound_errors_of_errors_eq (by simp) hl.errors,
        sound_collections_of_eq (collectionCause_pushAll _ _ _) (size_collections_pushAll _ _ _)
          hl.collections⟩
  | writeCollectionCause t cause hcause =>
      exact ⟨sound_errors_of_errors_eq (by simp) hl.errors,
        sound_writeCollectionCause hl.collections t cause hcause⟩
  | rekey hasher =>
      exact ⟨sound_errors_of_errors_eq (errors_rekey h hasher) hl.errors,
        sound_collections_of_eq rfl (by simp) hl.collections⟩

theorem Reachable.linked {h : Heap} (hr : Reachable h) : h.Linked :=
  Reachable.invariant Linked.empty (fun hl hc => hl.change hc) hr

/-! ## What the invariant gives every walk -/

section Walks

variable {h : Heap}

theorem Linked.errorChain?_eq_some (hl : h.Linked) {e : ErrorId} {l : List ErrorId}
    (hends : Links.Ends h.errorCause e l) : h.errorChain? e = some l := by
  rw [errorChain?, errorWalk_eq_walk]
  exact hl.errors.walk_eq_some ErrorId.index_injective (fun _ he => he)
    (fun _ he => errorCause_of_not_hasError he) hends

theorem Linked.collectionChain?_eq_some (hl : h.Linked) {c : CollectionId}
    {l : List CollectionId} (hends : Links.Ends h.collectionCause c l) :
    h.collectionChain? c = some l := by
  rw [collectionChain?, collectionWalk_eq_walk]
  exact hl.collections.walk_eq_some CollectionId.index_injective (fun _ hc => hc)
    (fun _ hc => collectionCause_of_not_hasCollection hc) hends

/-- The chain the library computes for an error is the chain that ends. -/
theorem Linked.errorChain_eq (hl : h.Linked) {e : ErrorId} {l : List ErrorId}
    (hends : Links.Ends h.errorCause e l) : h.errorChain e = l := by
  rw [errorChain, hl.errorChain?_eq_some hends, Option.getD_some]

theorem Linked.collectionChain_eq (hl : h.Linked) {c : CollectionId} {l : List CollectionId}
    (hends : Links.Ends h.collectionCause c l) : h.collectionChain c = l := by
  rw [collectionChain, hl.collectionChain?_eq_some hends, Option.getD_some]

theorem Linked.errorChain_ends (hl : h.Linked) (e : ErrorId) :
    Links.Ends h.errorCause e (h.errorChain e) := by
  obtain ⟨l, hends⟩ := hl.errors.acyclic e
  rwa [hl.errorChain_eq hends]

theorem Linked.collectionChain_ends (hl : h.Linked) (c : CollectionId) :
    Links.Ends h.collectionCause c (h.collectionChain c) := by
  obtain ⟨l, hends⟩ := hl.collections.acyclic c
  rwa [hl.collectionChain_eq hends]

/-- Creating an error fails only for a blank description: the cause's chain always ends. -/
theorem Linked.createError_eq (hl : h.Linked) (kind : Kind) (description : String)
    (details : Option String) (cause : Option ErrorId) :
    h.createError kind description details cause =
      if Text.isBlank description then .error (.invalidArgument "description" .blank)
      else .ok (h.allocError ⟨kind, description, details, cause⟩) := by
  rw [Heap.createError_eq]
  cases cause with
  | none => rfl
  | some c =>
      have hends : (h.errorChain? c).isNone = false := by
        rw [hl.errorChain?_eq_some (hl.errorChain_ends c)]
        rfl
      simp only [hends, Bool.false_eq_true, if_false]

end Walks

/-! ## Every reachable heap -/

/-- What the cause links of a heap give every walk along them: no node is on the chain of its
own cause; every chain ends, meets each node once and is no longer than the heap; the walks of
the cycle checks find every chain; and creating an error fails only for a blank description. -/
structure AcyclicCauses (h : Heap) : Prop where
  error_not_mem_errorChain_cause : ∀ e c, h.errorCause e = some c → e ∉ h.errorChain c
  collection_not_mem_collectionChain_cause :
    ∀ d c, h.collectionCause d = some c → d ∉ h.collectionChain c
  errorChain_ends : ∀ e, Links.Ends h.errorCause e (h.errorChain e)
  collectionChain_ends : ∀ c, Links.Ends h.collectionCause c (h.collectionChain c)
  errorChain_nodup : ∀ e, (h.errorChain e).Nodup
  collectionChain_nodup : ∀ c, (h.collectionChain c).Nodup
  errorChain_length_le : ∀ e, h.HasError e → (h.errorChain e).length ≤ h.errors.size
  collectionChain_length_le :
    ∀ c, h.HasCollection c → (h.collectionChain c).length ≤ h.collections.size
  errorChain?_eq : ∀ e, h.errorChain? e = some (h.errorChain e)
  collectionChain?_eq : ∀ c, h.collectionChain? c = some (h.collectionChain c)
  createError_eq : ∀ kind description details cause,
    h.createError kind description details cause =
      if Text.isBlank description then .error (.invalidArgument "description" .blank)
      else .ok (h.allocError ⟨kind, description, details, cause⟩)

theorem Linked.toAcyclicCauses {h : Heap} (hl : h.Linked) : h.AcyclicCauses where
  error_not_mem_errorChain_cause e c hc := by
    have hchain := (Links.Ends.link hc (hl.errorChain_ends c)).nodup
    exact (List.nodup_cons.mp hchain).1
  collection_not_mem_collectionChain_cause d c hc := by
    have hchain := (Links.Ends.link hc (hl.collectionChain_ends c)).nodup
    exact (List.nodup_cons.mp hchain).1
  errorChain_ends := hl.errorChain_ends
  collectionChain_ends := hl.collectionChain_ends
  errorChain_nodup e := (hl.errorChain_ends e).nodup
  collectionChain_nodup c := (hl.collectionChain_ends c).nodup
  errorChain_length_le e he :=
    (hl.errorChain_ends e).length_le ErrorId.index_injective fun x hx =>
      hl.errors.live_of_mem (hl.errorChain_ends e) he hx
  collectionChain_length_le c hc :=
    (hl.collectionChain_ends c).length_le CollectionId.index_injective fun x hx =>
      hl.collections.live_of_mem (hl.collectionChain_ends c) hc hx
  errorChain?_eq e := hl.errorChain?_eq_some (hl.errorChain_ends e)
  collectionChain?_eq c := hl.collectionChain?_eq_some (hl.collectionChain_ends c)
  createError_eq := hl.createError_eq

/-- In every reachable heap both cause graphs are acyclic: every chain ends after at most as
many nodes as the heap holds and meets each node once, the cycle checks never meet a chain that
does not end, and creating an error fails only for a blank description. -/
theorem Reachable.acyclicCauses {h : Heap} (hr : Reachable h) : h.AcyclicCauses :=
  hr.linked.toAcyclicCauses

/-- A failure caused by another, which is then refused the first as its cause. -/
theorem acyclicCauses_after_refused_loop :
    Reachable ((({} : Heap).apply (.createError Kind.failure "disk full" none none)
      |>.apply (.createError Kind.failure "write failed" none (some ⟨0⟩)))
      |>.apply (.setErrorCause ⟨0⟩ (some ⟨1⟩))) ∧
    ((({} : Heap).apply (.createError Kind.failure "disk full" none none)
      |>.apply (.createError Kind.failure "write failed" none (some ⟨0⟩)))
      |>.apply (.setErrorCause ⟨0⟩ (some ⟨1⟩))).AcyclicCauses := by
  have hr : Reachable ((({} : Heap).apply (.createError Kind.failure "disk full" none none)
      |>.apply (.createError Kind.failure "write failed" none (some ⟨0⟩)))
      |>.apply (.setErrorCause ⟨0⟩ (some ⟨1⟩))) := by
    refine .step _ (.step _ (.step _ (.empty hash) ?_) ?_) ?_
    · simp [Op.Valid]
    · simp only [Op.Valid, Option.some.injEq, forall_eq']
      decide
    · simp only [Op.Valid, Option.some.injEq, forall_eq']
      decide
  exact ⟨hr, Reachable.acyclicCauses hr⟩

end ErrorTrail.Heap
