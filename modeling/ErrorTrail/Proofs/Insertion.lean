import ErrorTrail.Proofs.Index

/-! # Adding errors to a collection: its list grows only at the end, by greedy deduplication
under structural equality. -/

namespace ErrorTrail.Heap

/-! ## Greedy deduplication of lists -/

/-- One step of greedy deduplication: `e` is appended unless `held` holds an error equal to it. -/
def appendNew (h : Heap) (held : List ErrorId) (e : ErrorId) : List ErrorId :=
  if held.any (h.sameError · e) then held else held ++ [e]

/-- The errors of a list that no error of `seen` and no earlier error of the list equals. -/
def firstOfEach (h : Heap) (seen : List ErrorId) : List ErrorId → List ErrorId
  | [] => []
  | e :: rest =>
    if seen.any (h.sameError · e) then h.firstOfEach (seen ++ [e]) rest
    else e :: h.firstOfEach (seen ++ [e]) rest

section Greedy

variable {h : Heap}

/-- The greedy fold appends the errors that no error met before equals, where `kept` meets an
error exactly when `seen` does. -/
theorem Linked.foldl_appendNew_eq (hl : h.Linked) {kept seen : List ErrorId}
    (hsame : ∀ x, kept.any (h.sameError · x) = seen.any (h.sameError · x)) (l : List ErrorId) :
    l.foldl h.appendNew kept = kept ++ h.firstOfEach seen l := by
  induction l generalizing kept seen with
  | nil => simp [firstOfEach]
  | cons e rest ih =>
      rw [List.foldl_cons, firstOfEach, appendNew, hsame e]
      by_cases hdup : seen.any (h.sameError · e)
      · -- `e` is dropped: an error equal to it is equal to the error of `seen` that `e` equals
        rw [if_pos hdup, if_pos hdup]
        refine ih fun x => ?_
        rw [hsame x, List.any_append, List.any_cons, List.any_nil, Bool.or_false]
        cases hex : h.sameError e x with
        | false => simp
        | true =>
            obtain ⟨s, hs, hse⟩ := List.any_eq_true.mp hdup
            have hsx : seen.any (h.sameError · x) = true :=
              List.any_eq_true.mpr ⟨s, hs, hl.sameError_trans hse hex⟩
            simp [hsx]
      · -- `e` is kept, and met, by both sides
        have hsame' : ∀ x, (kept ++ [e]).any (h.sameError · x) = (seen ++ [e]).any (h.sameError · x) := by
          intro x
          rw [List.any_append, List.any_append, hsame x]
        rw [if_neg hdup, if_neg hdup, ih hsame']
        simp

theorem Linked.foldl_appendNew_eq_firstOfEach (hl : h.Linked) (held l : List ErrorId) :
    l.foldl h.appendNew held = held ++ h.firstOfEach held l :=
  hl.foldl_appendNew_eq (fun _ => rfl) l

end Greedy

/-! ## Each way of adding errors -/

section Insertion

variable {h : Heap} {c : CollectionId}

theorem appendNew_of_errors_eq {h' : Heap} (heq : h'.errors = h.errors) :
    h'.appendNew = h.appendNew := by
  funext held e
  simp only [appendNew, sameError_of_errors_eq heq]

theorem localErrors_pushLocal (hc : h.HasCollection c) (e : ErrorId) (x : CollectionId) :
    (h.pushLocal c e).localErrors x = if x = c then h.localErrors c ++ [e] else h.localErrors x := by
  by_cases hx : x = c
  · rw [if_pos hx, hx, localErrors_pushLocal_self hc]
  · rw [if_neg hx, localErrors_pushLocal_of_ne e hx]

theorem localErrors_pushAll (hc : h.HasCollection c) (errors : List ErrorId) (x : CollectionId) :
    (h.pushAll c errors).localErrors x =
      if x = c then h.localErrors c ++ errors else h.localErrors x := by
  by_cases hx : x = c
  · rw [if_pos hx, hx, localErrors_pushAll_self hc]
  · rw [if_neg hx, localErrors_pushAll_of_ne errors hx]

/-- With the collection's set indexed, adding an error tests the linear scan of its list. -/
theorem tryInsertError_eq (hidx : (h.collection c).errors.Indexed h.fingerprint) (e : ErrorId) :
    h.tryInsertError c e =
      if (h.localErrors c).any (h.sameError · e) then (h, false) else (h.pushLocal c e, true) := by
  rw [tryInsertError, containsLocal, hidx.contains_eq_any]
  rfl

theorem insertError_eq (hidx : (h.collection c).errors.Indexed h.fingerprint) (e : ErrorId) :
    h.insertError c e =
      if (h.localErrors c).any (h.sameError · e) then .error (.duplicate (h.error e).description)
      else .ok (h.pushLocal c e) := by
  rw [insertError, containsLocal, hidx.contains_eq_any]
  rfl

/-- Adding a list one error at a time appends to the collection what the greedy fold appends to
its list, and counts it. -/
theorem exists_tryInsertErrors_eq (hidx : ∀ x, (h.collection x).errors.Indexed h.fingerprint)
    (hc : h.HasCollection c) (l : List ErrorId) :
    ∃ added, l.foldl h.appendNew (h.localErrors c) = h.localErrors c ++ added ∧
      h.tryInsertErrors c l = (h.pushAll c added, added.length) := by
  induction l generalizing h with
  | nil => exact ⟨[], by simp, rfl⟩
  | cons e rest ih =>
      rw [List.foldl_cons, tryInsertErrors, tryInsertError_eq (hidx c), appendNew]
      by_cases hdup : (h.localErrors c).any (h.sameError · e)
      · -- a duplicate leaves the heap as it is
        obtain ⟨added, hfold, hrun⟩ := ih hidx hc
        refine ⟨added, ?_, ?_⟩
        · rw [if_pos hdup, hfold]
        · simp [hdup, hrun]
      · -- otherwise the rest is added to the heap that holds `e`, where equality is unchanged
        obtain ⟨added, hfold, hrun⟩ := ih (indexed_pushLocal hidx hc e) (hc.pushLocal c e)
        have hsame : (h.pushLocal c e).appendNew = h.appendNew := appendNew_of_errors_eq rfl
        rw [hsame, localErrors_pushLocal_self hc] at hfold
        refine ⟨e :: added, ?_, ?_⟩
        · rw [if_neg hdup, hfold, List.append_assoc, List.singleton_append]
        · simp [hdup, hrun, pushAll]

theorem localErrors_tryInsertErrors (hidx : ∀ x, (h.collection x).errors.Indexed h.fingerprint)
    (hc : h.HasCollection c) (l : List ErrorId) (x : CollectionId) :
    (h.tryInsertErrors c l).1.localErrors x =
      if x = c then l.foldl h.appendNew (h.localErrors c) else h.localErrors x := by
  obtain ⟨added, hfold, hrun⟩ := exists_tryInsertErrors_eq hidx hc l
  rw [hrun, hfold, localErrors_pushAll hc]

theorem count_tryInsertErrors (hidx : ∀ x, (h.collection x).errors.Indexed h.fingerprint)
    (hc : h.HasCollection c) (l : List ErrorId) :
    (h.tryInsertErrors c l).2 + (h.localErrors c).length =
      (l.foldl h.appendNew (h.localErrors c)).length := by
  obtain ⟨added, hfold, hrun⟩ := exists_tryInsertErrors_eq hidx hc l
  rw [hrun, hfold, List.length_append, Nat.add_comm]

theorem localErrors_allocCollection_fresh (category header : String) :
    (h.allocCollection ⟨category, header, ErrorSet.empty h.hasher, none⟩).1.localErrors
      ⟨h.collections.size⟩ = [] := by
  rw [localErrors, collection_allocCollection_fresh, ErrorSet.toList_empty]

theorem localErrors_allocCollection_of_ne (n : CollectionNode) {x : CollectionId}
    (hx : x ≠ ⟨h.collections.size⟩) : (h.allocCollection n).1.localErrors x = h.localErrors x := by
  rw [localErrors, collection_allocCollection_of_ne _ _ hx, localErrors]

/-- A collection made from a non-empty list, with a category and a header that are not blank, is
new and holds the greedy fold of the list from the empty list. -/
theorem createCollection_eq_ok (hidx : ∀ x, (h.collection x).errors.Indexed h.fingerprint)
    {category header : String} {l : List ErrorId} (hl : l ≠ [])
    (hcategory : Text.isBlank category = false) (hheader : Text.isBlank header = false) :
    ∃ h', h.createCollection category header l = .ok (h', ⟨h.collections.size⟩) ∧
      ∀ x, h'.localErrors x =
        if x = ⟨h.collections.size⟩ then l.foldl h.appendNew [] else h.localErrors x := by
  let node : CollectionNode := ⟨category, header, ErrorSet.empty h.hasher, none⟩
  have hfresh := hasCollection_allocCollection_fresh h node
  refine ⟨((h.allocCollection node).1.tryInsertErrors ⟨h.collections.size⟩ l).1, ?_, fun x => ?_⟩
  · have hnonempty : l.isEmpty = false := List.isEmpty_eq_false_iff.mpr hl
    rw [createCollection_eq, emptyCollection_eq]
    simp [hnonempty, hcategory, hheader, allocCollection, node, Except.map]
  · rw [localErrors_tryInsertErrors (indexed_allocCollection hidx category header) hfresh,
      localErrors_allocCollection_fresh, appendNew_of_errors_eq (errors_allocCollection h node)]
    by_cases hx : x = ⟨h.collections.size⟩
    · rw [if_pos hx, if_pos hx]
    · rw [if_neg hx, if_neg hx, localErrors_allocCollection_of_ne node hx]

theorem localErrors_singleCollection (e : ErrorId) (x : CollectionId) :
    (h.singleCollection e).1.localErrors x =
      if x = ⟨h.collections.size⟩ then [e] else h.localErrors x := by
  rw [singleCollection_fst, localErrors_pushAll (hasCollection_allocCollection_fresh h _),
    localErrors_allocCollection_fresh]
  by_cases hx : x = ⟨h.collections.size⟩
  · rw [if_pos hx, if_pos hx, List.nil_append]
  · rw [if_neg hx, if_neg hx, localErrors_allocCollection_of_ne _ hx]

end Insertion

/-! ## Lists only grow -/

section Growth

variable {h h' : Heap}

theorem localErrors_of_collections_eq (heq : h'.collections = h.collections) :
    h'.localErrors = h.localErrors := by
  funext c
  simp only [localErrors, collection, heq]

theorem prefix_localErrors_of_eq {c : CollectionId} (heq : h'.localErrors c = h.localErrors c) :
    h.localErrors c <+: h'.localErrors c :=
  heq ▸ List.prefix_refl _

/-- No change removes, replaces or reorders an error of a collection. -/
theorem Change.prefix_localErrors (hc : Change h h') (c : CollectionId) :
    h.localErrors c <+: h'.localErrors c := by
  cases hc with
  | keep => exact List.prefix_refl _
  | allocError node _ =>
      exact prefix_localErrors_of_eq
        (congrFun (localErrors_of_collections_eq (collections_allocError h node)) c)
  | writeErrorCause t cause _ =>
      exact prefix_localErrors_of_eq
        (congrFun (localErrors_of_collections_eq (collections_writeErrorCause h t cause)) c)
  | allocCollection category header errors _ =>
      rw [localErrors_pushAll (hasCollection_allocCollection_fresh h _)]
      by_cases hx : c = ⟨h.collections.size⟩
      · -- the new collection was no node of the heap before
        have hdead : h.localErrors c = [] := by
          subst hx
          simp [localErrors, collection]
        rw [if_pos hx, hdead]
        exact List.nil_prefix
      · rw [if_neg hx]
        exact prefix_localErrors_of_eq (localErrors_allocCollection_of_ne _ hx)
  | pushAll x errors hx _ =>
      rw [localErrors_pushAll hx]
      split
      · next hcx =>
          rw [hcx]
          exact List.prefix_append _ _
      · exact List.prefix_refl _
  | writeCollectionCause t cause _ =>
      apply prefix_localErrors_of_eq
      rw [localErrors, errors_collection_writeCollectionCause, localErrors]
  | rekey hasher => exact prefix_localErrors_of_eq rfl

theorem Op.prefix_localErrors {op : Op} (hvalid : op.Valid h) (c : CollectionId) :
    h.localErrors c <+: (h.apply op).localErrors c :=
  (Op.change hvalid).prefix_localErrors c

/-- A run of operations on live nodes, between which the runtime may draw new hash keys. -/
inductive Run : Heap → Heap → Prop
  | done (h : Heap) : Run h h
  | step {h h' : Heap} (op : Op) : op.Valid h → Run (h.apply op) h' → Run h h'
  | rekey {h h' : Heap} (hasher : Fingerprint → UInt64) : Run (h.rekey hasher) h' → Run h h'

theorem Run.prefix_localErrors (hrun : Run h h') (c : CollectionId) :
    h.localErrors c <+: h'.localErrors c := by
  induction hrun with
  | done => exact List.prefix_refl _
  | step op hvalid _ ih => exact (Op.prefix_localErrors hvalid c).trans ih
  | rekey hasher _ ih => exact ((Change.rekey hasher).prefix_localErrors c).trans ih

theorem localErrors_apply_setErrorCause (t : ErrorId) (cause : Option ErrorId) :
    (h.apply (.setErrorCause t cause)).localErrors = h.localErrors := by
  rw [apply]
  cases hset : h.setErrorCause t cause with
  | error _ => rfl
  | ok h' =>
      have hwrite : h' = h.writeErrorCause t cause := by
        cases cause with
        | none => cases hset; rfl
        | some x =>
            rw [Heap.setErrorCause] at hset
            split at hset
            · split at hset
              · cases hset
              · cases hset
                rfl
            · cases hset
      rw [orKeep, hwrite, localErrors_of_collections_eq (collections_writeErrorCause h t cause)]

theorem localErrors_apply_setCollectionCause (t : CollectionId) (cause : Option CollectionId) :
    (h.apply (.setCollectionCause t cause)).localErrors = h.localErrors := by
  rw [apply]
  cases hset : h.setCollectionCause t cause with
  | error _ => rfl
  | ok h' =>
      have hwrite : h' = h.writeCollectionCause t cause := by
        cases cause with
        | none => cases hset; rfl
        | some x =>
            rw [Heap.setCollectionCause] at hset
            split at hset
            · cases hset
            · split at hset
              · split at hset
                · cases hset
                · cases hset
                  rfl
              · cases hset
      funext c
      rw [orKeep, hwrite, localErrors, errors_collection_writeCollectionCause, localErrors]

end Growth

/-! ## Every reachable heap -/

/-- How the lists of own errors of a heap's collections change: they only grow at their end,
setting a cause leaves them as they are, and each way of adding errors appends what greedy
deduplication under structural equality in the heap prescribes. -/
structure GreedyLists (h : Heap) : Prop where
  prefix_run : ∀ h', Run h h' → ∀ c, h.localErrors c <+: h'.localErrors c
  prefix_step : ∀ op, op.Valid h → ∀ c, h.localErrors c <+: (h.apply op).localErrors c
  setErrorCause_keeps : ∀ t cause, (h.apply (.setErrorCause t cause)).localErrors = h.localErrors
  setCollectionCause_keeps :
    ∀ t cause, (h.apply (.setCollectionCause t cause)).localErrors = h.localErrors
  pushLocal_appends : ∀ c e, h.HasCollection c →
    ∀ x, (h.pushLocal c e).localErrors x = if x = c then h.localErrors c ++ [e] else h.localErrors x
  tryInsertError_new : ∀ c e, (h.localErrors c).any (h.sameError · e) = false →
    h.tryInsertError c e = (h.pushLocal c e, true)
  tryInsertError_dup : ∀ c e, (h.localErrors c).any (h.sameError · e) = true →
    h.tryInsertError c e = (h, false)
  insertError_new : ∀ c e, (h.localErrors c).any (h.sameError · e) = false →
    h.insertError c e = .ok (h.pushLocal c e)
  insertError_dup : ∀ c e, (h.localErrors c).any (h.sameError · e) = true →
    h.insertError c e = .error (.duplicate (h.error e).description) ∧
      (Violation.duplicate (h.error e).description).className = "DuplicateError" ∧
      (Violation.duplicate (h.error e).description).message =
        "Duplicate error: " ++ (h.error e).description
  tryInsertErrors_fold : ∀ c l, h.HasCollection c → ∀ x, (h.tryInsertErrors c l).1.localErrors x =
    if x = c then l.foldl h.appendNew (h.localErrors c) else h.localErrors x
  tryInsertErrors_count : ∀ c l, h.HasCollection c →
    (h.tryInsertErrors c l).2 + (h.localErrors c).length =
      (l.foldl h.appendNew (h.localErrors c)).length
  createCollection_fold : ∀ category header l, l ≠ [] → Text.isBlank category = false →
    Text.isBlank header = false →
    ∃ h', h.createCollection category header l = .ok (h', ⟨h.collections.size⟩) ∧
      ∀ x, h'.localErrors x =
        if x = ⟨h.collections.size⟩ then l.foldl h.appendNew [] else h.localErrors x
  fold_eq_firstOfEach : ∀ held l, l.foldl h.appendNew held = held ++ h.firstOfEach held l
  singleCollection_holds : ∀ e x, (h.singleCollection e).1.localErrors x =
    if x = ⟨h.collections.size⟩ then [e] else h.localErrors x

/-- In every reachable heap, collections' lists of own errors only grow at their end, along every
run, and setting a cause leaves them as they are. Adding an error appends it, and says so, exactly
when no error of the collection is structurally equal to it; otherwise the heap is left as it is,
and the refusing form fails with a duplicate error naming the description. Adding a list leaves
the collection holding the greedy fold of that step over the list, and counts the errors
appended; a collection made from a non-empty list holds the fold from the empty list, which keeps
the first member of each class of equal errors in order of first occurrence. -/
theorem Reachable.greedyLists {h : Heap} (hr : Reachable h) : h.GreedyLists := by
  have hs := hr.setsIndexed
  have hl := hr.linked
  refine
    { prefix_run := fun _ hrun => hrun.prefix_localErrors
      prefix_step := fun _ hvalid => Op.prefix_localErrors hvalid
      setErrorCause_keeps := localErrors_apply_setErrorCause
      setCollectionCause_keeps := localErrors_apply_setCollectionCause
      pushLocal_appends := fun _ e hc => localErrors_pushLocal hc e
      tryInsertError_new := fun c e hnew => ?_
      tryInsertError_dup := fun c e hdup => ?_
      insertError_new := fun c e hnew => ?_
      insertError_dup := fun c e hdup => ⟨?_, rfl, rfl⟩
      tryInsertErrors_fold := fun _ l hc => localErrors_tryInsertErrors hs.indexed hc l
      tryInsertErrors_count := fun _ l hc => count_tryInsertErrors hs.indexed hc l
      createCollection_fold := fun _ _ _ hne hcategory hheader =>
        createCollection_eq_ok hs.indexed hne hcategory hheader
      fold_eq_firstOfEach := hl.foldl_appendNew_eq_firstOfEach
      singleCollection_holds := localErrors_singleCollection }
  · rw [tryInsertError_eq (hs.indexed c), if_neg (by simp [hnew])]
  · rw [tryInsertError_eq (hs.indexed c), if_pos hdup]
  · rw [insertError_eq (hs.indexed c), if_neg (by simp [hnew])]
  · rw [insertError_eq (hs.indexed c), if_pos hdup]

/-- Two failures of one description and a third error, made into a collection under a hash that
sends every fingerprint to one key: the second failure is dropped as equal to the first. -/
theorem greedyLists_after_equal_failures :
    Reachable (((({ hasher := fun _ => 0 } : Heap).apply
        (.createError Kind.failure "disk full" none none)
      |>.apply (.createError Kind.failure "disk full" none none))
      |>.apply (.createError Kind.failure "write failed" none none))
      |>.apply (.createCollection "io" "backup" [⟨0⟩, ⟨1⟩, ⟨2⟩])) ∧
    (((({ hasher := fun _ => 0 } : Heap).apply
        (.createError Kind.failure "disk full" none none)
      |>.apply (.createError Kind.failure "disk full" none none))
      |>.apply (.createError Kind.failure "write failed" none none))
      |>.apply (.createCollection "io" "backup" [⟨0⟩, ⟨1⟩, ⟨2⟩])).GreedyLists := by
  have hr : Reachable (((({ hasher := fun _ => 0 } : Heap).apply
        (.createError Kind.failure "disk full" none none)
      |>.apply (.createError Kind.failure "disk full" none none))
      |>.apply (.createError Kind.failure "write failed" none none))
      |>.apply (.createCollection "io" "backup" [⟨0⟩, ⟨1⟩, ⟨2⟩])) := by
    refine .step _ (.step _ (.step _ (.step _ (.empty _) ?_) ?_) ?_) ?_
    · simp [Op.Valid]
    · simp [Op.Valid]
    · simp [Op.Valid]
    · simp only [Op.Valid, List.mem_cons, List.not_mem_nil, or_false, forall_eq_or_imp, forall_eq]
      decide
  exact ⟨hr, Reachable.greedyLists hr⟩

end ErrorTrail.Heap
