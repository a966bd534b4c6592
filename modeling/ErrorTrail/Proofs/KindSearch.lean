import ErrorTrail.Proofs.Severity

/-! # Searching a collection for a kind: the first error of the kind in the chains of its
errors laid end to end. -/

namespace ErrorTrail.Heap

/-- `x` stands at position `i` of `l`, its kind has the name of `kind`, and no error before
position `i` has a kind of that name. -/
structure FirstOfKindAt (h : Heap) (kind : Kind) (l : List ErrorId) (i : Nat) (x : ErrorId) :
    Prop where
  value_at : l[i]? = some x
  same : (h.error x).kind.same kind = true
  earliest : ∀ j, j < i → ∀ y, l[j]? = some y → (h.error y).kind.same kind = false

section Search

variable {h : Heap} {kind : Kind}

theorem find?_eq_some_iff_firstOfKindAt {l : List ErrorId} {x : ErrorId} :
    l.find? (fun y => (h.error y).kind.same kind) = some x ↔ ∃ i, h.FirstOfKindAt kind l i x := by
  rw [List.find?_eq_some_iff_getElem]
  constructor
  · rintro ⟨hsame, i, hi, rfl, hbefore⟩
    refine ⟨i, List.getElem?_eq_getElem hi, hsame, fun j hj y hy => ?_⟩
    obtain ⟨hjl, rfl⟩ := List.getElem?_eq_some_iff.mp hy
    simpa using hbefore j hj
  · rintro ⟨i, hat⟩
    obtain ⟨hi, hx⟩ := List.getElem?_eq_some_iff.mp hat.value_at
    refine ⟨hat.same, i, hi, hx, fun j hj => ?_⟩
    simpa using hat.earliest j hj _ (List.getElem?_eq_getElem (Nat.lt_trans hj hi))

/-- A search that finds a hit in the first part of a list never reads the rest. -/
theorem find?_append_of_exists {α : Type} {p : α → Bool} {l l' : List α}
    (hfound : ∃ x ∈ l, p x = true) : (l ++ l').find? p = l.find? p := by
  obtain ⟨x, hx⟩ := Option.isSome_iff_exists.mp (List.find?_isSome.mpr hfound)
  rw [List.find?_append, hx, Option.some_or]

end Search

variable (h : Heap)

/-- The chains of all the errors of a collection chain, read collection by collection. -/
theorem allChains_eq_flatMap_collectionChain (c : CollectionId) :
    h.allChains c = (h.collectionChain c).flatMap fun d => (h.localErrors d).flatMap h.errorChain := by
  rw [allChains, allErrors, List.flatMap_assoc]

/-- The two-level search is the search for the first error of the kind in the chains of all the
errors laid end to end. -/
theorem findByKindDeep_eq_find? (c : CollectionId) (kind : Kind) :
    h.findByKindDeep c kind = (h.allChains c).find? fun x => (h.error x).kind.same kind := by
  rw [allChains, List.find?_flatMap]
  rfl

/-- Read collection by collection, the search goes through the collections of the chain in
order, and through the errors of each collection in order, each along its own chain. -/
theorem findByKindDeep_eq_findSome? (c : CollectionId) (kind : Kind) :
    h.findByKindDeep c kind = (h.collectionChain c).findSome? fun d =>
      (h.localErrors d).findSome? fun e => h.findByKind e kind := by
  rw [findByKindDeep_eq_find?, allChains_eq_flatMap_collectionChain]
  simp only [List.find?_flatMap]
  rfl

/-- Once the chain of an error holds the kind, the errors after it are never searched. -/
theorem findByKindDeep_of_allErrors_eq {c : CollectionId} {kind : Kind} {pre post : List ErrorId}
    {e : ErrorId} (hsplit : h.allErrors c = pre ++ e :: post)
    (hfound : ∃ x ∈ h.errorChain e, (h.error x).kind.same kind = true) :
    h.findByKindDeep c kind =
      (pre.flatMap h.errorChain ++ h.errorChain e).find? fun x => (h.error x).kind.same kind := by
  obtain ⟨x, hx, hsame⟩ := hfound
  rw [findByKindDeep_eq_find?, allChains, hsplit, List.flatMap_append, List.flatMap_cons,
    ← List.append_assoc]
  exact find?_append_of_exists ⟨x, List.mem_append_right _ hx, hsame⟩

/-- Once a collection of the chain holds an error whose chain holds the kind, the deeper
collections are never searched. -/
theorem findByKindDeep_of_collectionChain_eq {c : CollectionId} {kind : Kind}
    {near deep : List CollectionId} {d : CollectionId}
    (hsplit : h.collectionChain c = near ++ d :: deep)
    (hfound : ∃ x ∈ (h.localErrors d).flatMap h.errorChain, (h.error x).kind.same kind = true) :
    h.findByKindDeep c kind =
      ((near ++ [d]).flatMap fun d => (h.localErrors d).flatMap h.errorChain).find?
        fun x => (h.error x).kind.same kind := by
  obtain ⟨x, hx, hsame⟩ := hfound
  rw [findByKindDeep_eq_find?, allChains_eq_flatMap_collectionChain, hsplit,
    ← List.singleton_append, ← List.append_assoc, List.flatMap_append]
  refine find?_append_of_exists ⟨x, ?_, hsame⟩
  rw [List.flatMap_append, List.flatMap_singleton]
  exact List.mem_append_right _ hx

/-- What the search for a kind answers for a collection: the first error of that kind in the
chains of all its errors laid end to end, read collection by collection and error by error, or
nothing when no error there has the kind; what follows the first collection, or the first error,
whose chains hold the kind is never looked at. -/
structure KindSearch (h : Heap) (c : CollectionId) (kind : Kind) : Prop where
  findByKindDeep_eq_find? :
    h.findByKindDeep c kind = (h.allChains c).find? fun x => (h.error x).kind.same kind
  allChains_eq :
    h.allChains c = (h.collectionChain c).flatMap fun d => (h.localErrors d).flatMap h.errorChain
  findByKindDeep_eq_findSome? : h.findByKindDeep c kind = (h.collectionChain c).findSome? fun d =>
    (h.localErrors d).findSome? fun e => h.findByKind e kind
  eq_some_iff : ∀ x, h.findByKindDeep c kind = some x ↔
    ∃ i, h.FirstOfKindAt kind (h.allChains c) i x
  eq_none_iff : h.findByKindDeep c kind = none ↔
    ∀ x ∈ h.allChains c, (h.error x).kind.same kind = false
  earlier_error_first : ∀ pre e post, h.allErrors c = pre ++ e :: post →
    (∃ x ∈ h.errorChain e, (h.error x).kind.same kind = true) →
    h.findByKindDeep c kind =
      (pre.flatMap h.errorChain ++ h.errorChain e).find? fun x => (h.error x).kind.same kind
  nearer_collection_first : ∀ near d deep, h.collectionChain c = near ++ d :: deep →
    (∃ x ∈ (h.localErrors d).flatMap h.errorChain, (h.error x).kind.same kind = true) →
    h.findByKindDeep c kind =
      ((near ++ [d]).flatMap fun d => (h.localErrors d).flatMap h.errorChain).find?
        fun x => (h.error x).kind.same kind

/-- In every heap, the deep search of a collection for a kind finds the first error of that kind
in the chains of all its errors laid end to end, nearest collection first and each error before
its causes, so a deep cause of an earlier error comes before a later error and a nearer
collection before a deeper one; it finds nothing exactly when no error there has the kind. -/
theorem kindSearch (c : CollectionId) (kind : Kind) : h.KindSearch c kind where
  findByKindDeep_eq_find? := h.findByKindDeep_eq_find? c kind
  allChains_eq := h.allChains_eq_flatMap_collectionChain c
  findByKindDeep_eq_findSome? := h.findByKindDeep_eq_findSome? c kind
  eq_some_iff _ := by rw [findByKindDeep_eq_find?, find?_eq_some_iff_firstOfKindAt]
  eq_none_iff := by
    rw [findByKindDeep_eq_find?, List.find?_eq_none]
    simp
  earlier_error_first _ _ _ hsplit hfound := h.findByKindDeep_of_allErrors_eq hsplit hfound
  nearer_collection_first _ _ _ hsplit hfound := h.findByKindDeep_of_collectionChain_eq hsplit hfound

-- A failure caused by a missing row: the deep search finds the cause, the local one does not.
example :
    let h := ((({ hasher := fun _ => 0 } : Heap).apply
        (.createError Kind.noResult "row missing" none none)
      |>.apply (.createError Kind.failure "lookup failed" none (some ⟨0⟩)))
      |>.apply (.createCollection "db" "query failed" [⟨1⟩]))
    h.findByKindDeep ⟨0⟩ Kind.noResult = some ⟨0⟩ ∧ h.findLocalByKind ⟨0⟩ Kind.noResult = none := by
  decide +kernel

end ErrorTrail.Heap
