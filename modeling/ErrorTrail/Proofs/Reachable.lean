import ErrorTrail.Collection
import ErrorTrail.Proofs.Links

/-! # Reachable heaps: built by operations on live nodes, while the runtime draws new hash keys
for the error sets made next. -/

namespace ErrorTrail.Heap

/-- A live error: a node the heap holds. -/
def HasError (h : Heap) (e : ErrorId) : Prop :=
  e.index < h.errors.size

/-- A live collection: a node the heap holds. -/
def HasCollection (h : Heap) (c : CollectionId) : Prop :=
  c.index < h.collections.size

instance (h : Heap) (e : ErrorId) : Decidable (h.HasError e) :=
  inferInstanceAs (Decidable (e.index < h.errors.size))

instance (h : Heap) (c : CollectionId) : Decidable (h.HasCollection c) :=
  inferInstanceAs (Decidable (c.index < h.collections.size))

/-- Appends the errors of a list to a collection, one after another, with no check. -/
def pushAll (h : Heap) (c : CollectionId) (errors : List ErrorId) : Heap :=
  errors.foldl (fun acc e => acc.pushLocal c e) h

/-- The heap a change leaves: the new heap, or `h` when the change was refused. -/
def orKeep (h : Heap) : Except Violation Heap → Heap
  | .ok h' => h'
  | .error _ => h

/-- The heap once the runtime has drawn new hash keys: the error sets made from now on hash with
`hasher`, and every node stays as it was. -/
def rekey (h : Heap) (hasher : Fingerprint → UInt64) : Heap :=
  { h with hasher := hasher }

/-- The operations that change nodes, with their arguments. -/
inductive Op where
  | createError (kind : Kind) (description : String) (details : Option String)
      (cause : Option ErrorId)
  | setErrorCause (target : ErrorId) (cause : Option ErrorId)
  | emptyCollection (category header : String)
  | createCollection (category header : String) (errors : List ErrorId)
  | singleCollection (error : ErrorId)
  | insertError (collection : CollectionId) (error : ErrorId)
  | tryInsertError (collection : CollectionId) (error : ErrorId)
  | insertErrors (collection : CollectionId) (errors : List ErrorId)
  | tryInsertErrors (collection : CollectionId) (errors : List ErrorId)
  | setCollectionCause (target : CollectionId) (cause : Option CollectionId)

/-- The heap after an operation; a refused operation leaves it as it was. -/
def apply (h : Heap) : Op → Heap
  | .createError kind description details cause =>
    h.orKeep ((h.createError kind description details cause).map Prod.fst)
  | .setErrorCause target cause => h.orKeep (h.setErrorCause target cause)
  | .emptyCollection category header => h.orKeep ((h.emptyCollection category header).map Prod.fst)
  | .createCollection category header errors =>
    h.orKeep ((h.createCollection category header errors).map Prod.fst)
  | .singleCollection e => (h.singleCollection e).1
  | .insertError c e => h.orKeep (h.insertError c e)
  | .tryInsertError c e => (h.tryInsertError c e).1
  | .insertErrors c errors => h.orKeep (h.insertErrors c errors)
  | .tryInsertErrors c errors => (h.tryInsertErrors c errors).1
  | .setCollectionCause target cause => h.orKeep (h.setCollectionCause target cause)

/-- Every node an operation names is live. -/
def Op.Valid (h : Heap) : Op → Prop
  | .createError _ _ _ cause => ∀ c, cause = some c → h.HasError c
  | .setErrorCause target cause => h.HasError target ∧ ∀ c, cause = some c → h.HasError c
  | .emptyCollection _ _ => True
  | .createCollection _ _ errors => ∀ e ∈ errors, h.HasError e
  | .singleCollection e => h.HasError e
  | .insertError c e | .tryInsertError c e => h.HasCollection c ∧ h.HasError e
  | .insertErrors c errors | .tryInsertErrors c errors =>
    h.HasCollection c ∧ ∀ e ∈ errors, h.HasError e
  | .setCollectionCause target cause =>
    h.HasCollection target ∧ ∀ c, cause = some c → h.HasCollection c

/-- The heaps a program can build: from the empty heap by operations on live nodes. Each error
set draws hash keys of its own, so between any two operations the runtime may give the sets made
next any hash function. -/
inductive Reachable : Heap → Prop
  | empty (hasher : Fingerprint → UInt64) : Reachable { hasher := hasher }
  | step {h : Heap} (op : Op) : Reachable h → op.Valid h → Reachable (h.apply op)
  | rekey {h : Heap} (hasher : Fingerprint → UInt64) : Reachable h → Reachable (h.rekey hasher)

/-- What one operation, or the runtime drawing new keys, can do to the heap, with the guarantees
the checks give. -/
inductive Change (h : Heap) : Heap → Prop
  | keep : Change h h
  | allocError (node : ErrorNode) (hcause : ∀ c, node.cause = some c → h.HasError c) :
      Change h (h.allocError node).1
  | writeErrorCause (target : ErrorId) (cause : Option ErrorId)
      (hcause : ∀ c, cause = some c →
        h.HasError c ∧ ∃ l, Links.Ends h.errorCause c l ∧ target ∉ l) :
      Change h (h.writeErrorCause target cause)
  | allocCollection (category header : String) (errors : List ErrorId)
      (herrors : ∀ e ∈ errors, h.HasError e) :
      Change h ((h.allocCollection ⟨category, header, ErrorSet.empty h.hasher, none⟩).1.pushAll
        ⟨h.collections.size⟩ errors)
  | pushAll (c : CollectionId) (errors : List ErrorId) (hc : h.HasCollection c)
      (herrors : ∀ e ∈ errors, h.HasError e) : Change h (h.pushAll c errors)
  | writeCollectionCause (target : CollectionId) (cause : Option CollectionId)
      (hcause : ∀ c, cause = some c →
        h.HasCollection c ∧ ∃ l, Links.Ends h.collectionCause c l ∧ target ∉ l) :
      Change h (h.writeCollectionCause target cause)
  | rekey (hasher : Fingerprint → UInt64) : Change h (h.rekey hasher)

/-! ## What each primitive change leaves alone -/

@[simp] theorem errors_default_collectionNode :
    (default : CollectionNode).errors = ErrorSet.empty hash := rfl

section Frames

variable (h : Heap)

@[simp] theorem errors_rekey (hasher : Fingerprint → UInt64) :
    (h.rekey hasher).errors = h.errors := rfl

@[simp] theorem collections_rekey (hasher : Fingerprint → UInt64) :
    (h.rekey hasher).collections = h.collections := rfl

@[simp] theorem collections_allocError (n : ErrorNode) :
    (h.allocError n).1.collections = h.collections := rfl

@[simp] theorem hasher_allocError (n : ErrorNode) : (h.allocError n).1.hasher = h.hasher := rfl

@[simp] theorem size_errors_allocError (n : ErrorNode) :
    (h.allocError n).1.errors.size = h.errors.size + 1 := by
  simp [allocError]

@[simp] theorem collections_writeErrorCause (e : ErrorId) (cause : Option ErrorId) :
    (h.writeErrorCause e cause).collections = h.collections := rfl

@[simp] theorem hasher_writeErrorCause (e : ErrorId) (cause : Option ErrorId) :
    (h.writeErrorCause e cause).hasher = h.hasher := rfl

@[simp] theorem errors_allocCollection (n : CollectionNode) :
    (h.allocCollection n).1.errors = h.errors := rfl

@[simp] theorem hasher_allocCollection (n : CollectionNode) :
    (h.allocCollection n).1.hasher = h.hasher := rfl

@[simp] theorem size_collections_allocCollection (n : CollectionNode) :
    (h.allocCollection n).1.collections.size = h.collections.size + 1 := by
  simp [allocCollection]

theorem hasCollection_allocCollection_fresh (n : CollectionNode) :
    (h.allocCollection n).1.HasCollection ⟨h.collections.size⟩ := by
  simp [HasCollection]

@[simp] theorem errors_modifyCollection (c : CollectionId) (f : CollectionNode → CollectionNode) :
    (h.modifyCollection c f).errors = h.errors := rfl

@[simp] theorem hasher_modifyCollection (c : CollectionId) (f : CollectionNode → CollectionNode) :
    (h.modifyCollection c f).hasher = h.hasher := rfl

/-- A change of one collection node that keeps its cause keeps every collection's cause. -/
theorem collectionCause_modifyCollection (c : CollectionId) (f : CollectionNode → CollectionNode)
    (hf : ∀ n, (f n).cause = n.cause) :
    (h.modifyCollection c f).collectionCause = h.collectionCause := by
  funext x
  simp only [collectionCause, collection, modifyCollection, Array.getElem?_modify]
  split
  · cases h.collections[x.index]? <;> simp [hf]
  · rfl

theorem collectionCause_pushLocal (c : CollectionId) (e : ErrorId) :
    (h.pushLocal c e).collectionCause = h.collectionCause :=
  h.collectionCause_modifyCollection c _ fun _ => rfl

/-- What appending one error to a collection keeps, appending a list keeps. -/
theorem pushAll_keeps {β : Type} (f : Heap → β) (c : CollectionId)
    (hf : ∀ h' : Heap, ∀ e, f (h'.pushLocal c e) = f h') (errors : List ErrorId) :
    f (h.pushAll c errors) = f h := by
  induction errors generalizing h with
  | nil => rfl
  | cons e rest ih => exact (ih (h.pushLocal c e)).trans (hf h e)

@[simp] theorem errors_pushAll (c : CollectionId) (errors : List ErrorId) :
    (h.pushAll c errors).errors = h.errors :=
  h.pushAll_keeps Heap.errors c (fun _ _ => rfl) errors

@[simp] theorem hasher_pushAll (c : CollectionId) (errors : List ErrorId) :
    (h.pushAll c errors).hasher = h.hasher :=
  h.pushAll_keeps Heap.hasher c (fun _ _ => rfl) errors

@[simp] theorem size_collections_pushAll (c : CollectionId) (errors : List ErrorId) :
    (h.pushAll c errors).collections.size = h.collections.size :=
  h.pushAll_keeps (·.collections.size) c (fun _ _ => by simp [pushLocal]) errors

theorem collectionCause_pushAll (c : CollectionId) (errors : List ErrorId) :
    (h.pushAll c errors).collectionCause = h.collectionCause :=
  h.pushAll_keeps Heap.collectionCause c (fun h' e => h'.collectionCause_pushLocal c e) errors

@[simp] theorem errors_writeCollectionCause (c : CollectionId) (cause : Option CollectionId) :
    (h.writeCollectionCause c cause).errors = h.errors := rfl

@[simp] theorem hasher_writeCollectionCause (c : CollectionId) (cause : Option CollectionId) :
    (h.writeCollectionCause c cause).hasher = h.hasher := rfl

@[simp] theorem size_collections_writeCollectionCause (c : CollectionId)
    (cause : Option CollectionId) :
    (h.writeCollectionCause c cause).collections.size = h.collections.size := by
  simp [writeCollectionCause]

/-- Setting a collection's cause keeps every collection's set. -/
theorem errors_collection_writeCollectionCause (t : CollectionId) (cause : Option CollectionId)
    (c : CollectionId) :
    ((h.writeCollectionCause t cause).collection c).errors = (h.collection c).errors := by
  by_cases hct : c = t
  · subst hct
    by_cases hlive : c.index < h.collections.size
    · simp [writeCollectionCause, collection_modifyCollection_self _ _ hlive]
    · have hnone : h.collections[c.index]? = none :=
        Array.getElem?_eq_none (Nat.le_of_not_lt hlive)
      simp [collection, writeCollectionCause, modifyCollection, Array.getElem?_modify, hnone]
  · simp only [writeCollectionCause, collection_modifyCollection_of_ne _ _ hct]

end Frames

/-! ## Causes after a change -/

section Causes

variable (h : Heap)

theorem errorWalk_eq_walk (fuel : Nat) (e : ErrorId) :
    h.errorWalk fuel e = Links.walk h.errorCause fuel e := by
  induction fuel generalizing e with
  | zero => rfl
  | succ fuel ih =>
      rw [errorWalk, Links.walk]
      cases h.errorCause e <;> simp [ih]

theorem collectionWalk_eq_walk (fuel : Nat) (c : CollectionId) :
    h.collectionWalk fuel c = Links.walk h.collectionCause fuel c := by
  induction fuel generalizing c with
  | zero => rfl
  | succ fuel ih =>
      rw [collectionWalk, Links.walk]
      cases h.collectionCause c <;> simp [ih]

/-- The walk of the cause checks finds exactly the chains of at most one node more than the heap
holds. -/
theorem errorChain?_eq_some_iff {e : ErrorId} {l : List ErrorId} :
    h.errorChain? e = some l ↔ Links.Ends h.errorCause e l ∧ l.length ≤ h.errors.size + 1 := by
  rw [errorChain?, errorWalk_eq_walk, Links.walk_eq_some_iff]

theorem collectionChain?_eq_some_iff {c : CollectionId} {l : List CollectionId} :
    h.collectionChain? c = some l ↔
      Links.Ends h.collectionCause c l ∧ l.length ≤ h.collections.size + 1 := by
  rw [collectionChain?, collectionWalk_eq_walk, Links.walk_eq_some_iff]

theorem errorCause_allocError_self (n : ErrorNode) :
    (h.allocError n).1.errorCause ⟨h.errors.size⟩ = n.cause := by
  simp [errorCause, error, allocError]

theorem errorCause_allocError_of_ne (n : ErrorNode) {e : ErrorId} (he : e ≠ ⟨h.errors.size⟩) :
    (h.allocError n).1.errorCause e = h.errorCause e := by
  have hindex : e.index ≠ h.errors.size := fun hi => he (by cases e; simp_all)
  simp [errorCause, error, allocError, Array.getElem?_push, hindex]

theorem errorCause_writeErrorCause_of_ne {t e : ErrorId} (cause : Option ErrorId) (he : e ≠ t) :
    (h.writeErrorCause t cause).errorCause e = h.errorCause e := by
  simp only [errorCause, h.error_writeErrorCause_of_ne cause he]

/-- A cause written to an error is the only new cause it can have. -/
theorem eq_of_errorCause_writeErrorCause_self {t c : ErrorId} {cause : Option ErrorId}
    (hc : (h.writeErrorCause t cause).errorCause t = some c) : cause = some c := by
  simp only [errorCause, error, writeErrorCause, Array.getElem?_modify, if_true] at hc
  cases hnode : h.errors[t.index]? with
  | none =>
      simp only [hnode, Option.map_none, Option.getD_none] at hc
      cases hc
  | some n => simpa [hnode] using hc

theorem collectionCause_allocCollection_self (n : CollectionNode) :
    (h.allocCollection n).1.collectionCause ⟨h.collections.size⟩ = n.cause := by
  simp [collectionCause, collection, allocCollection]

theorem collection_allocCollection_fresh (n : CollectionNode) :
    (h.allocCollection n).1.collection ⟨h.collections.size⟩ = n :=
  h.collection_allocCollection_self n

theorem collection_allocCollection_of_ne (n : CollectionNode) {c : CollectionId}
    (hc : c ≠ ⟨h.collections.size⟩) :
    (h.allocCollection n).1.collection c = h.collection c := by
  have hindex : c.index ≠ h.collections.size := fun hi => hc (by cases c; simp_all)
  simp [collection, allocCollection, Array.getElem?_push, hindex]

theorem collectionCause_allocCollection_of_ne (n : CollectionNode) {c : CollectionId}
    (hc : c ≠ ⟨h.collections.size⟩) :
    (h.allocCollection n).1.collectionCause c = h.collectionCause c := by
  have hindex : c.index ≠ h.collections.size := fun hi => hc (by cases c; simp_all)
  simp [collectionCause, collection, allocCollection, Array.getElem?_push, hindex]

theorem collectionCause_writeCollectionCause_of_ne {t c : CollectionId}
    (cause : Option CollectionId) (hc : c ≠ t) :
    (h.writeCollectionCause t cause).collectionCause c = h.collectionCause c := by
  simp only [collectionCause, writeCollectionCause, h.collection_modifyCollection_of_ne _ hc]

theorem eq_of_collectionCause_writeCollectionCause_self {t c : CollectionId}
    {cause : Option CollectionId} (hc : (h.writeCollectionCause t cause).collectionCause t = some c) :
    cause = some c := by
  simp only [collectionCause, collection, writeCollectionCause, modifyCollection,
    Array.getElem?_modify, if_true] at hc
  cases hnode : h.collections[t.index]? with
  | none =>
      simp only [hnode, Option.map_none, Option.getD_none] at hc
      cases hc
  | some n => simpa [hnode] using hc

end Causes

/-- Chains read only the causes and the number of nodes. -/
theorem errorChain_of_causes_eq {h h' : Heap} (hcause : h'.errorCause = h.errorCause)
    (hsize : h'.errors.size = h.errors.size) : h'.errorChain = h.errorChain := by
  funext e
  simp only [errorChain, errorChain?, errorWalk_eq_walk, hcause, hsize]

theorem collectionChain_of_causes_eq {h h' : Heap} (hcause : h'.collectionCause = h.collectionCause)
    (hsize : h'.collections.size = h.collections.size) : h'.collectionChain = h.collectionChain := by
  funext c
  simp only [collectionChain, collectionChain?, collectionWalk_eq_walk, hcause, hsize]

/-! ## What one operation does -/

section Operations

variable {h : Heap}

/-- Creating an error checks the description, then that the cause's chain ends. -/
theorem createError_eq (kind : Kind) (description : String) (details : Option String)
    (cause : Option ErrorId) :
    h.createError kind description details cause =
      if Text.isBlank description then .error (.invalidArgument "description" .blank)
      else match cause with
        | some c =>
          if (h.errorChain? c).isNone then .error (h.errorCycle c)
          else .ok (h.allocError ⟨kind, description, details, cause⟩)
        | none => .ok (h.allocError ⟨kind, description, details, none⟩) := by
  unfold createError Guard.notBlank
  by_cases hblank : Text.isBlank description
  · simp [hblank]
    rfl
  · cases cause with
    | none => simp [hblank]
    | some c =>
        by_cases hends : (h.errorChain? c).isNone
        · simp [hblank, hends]
          rfl
        · simp [hblank, hends]

theorem emptyCollection_eq (category header : String) :
    h.emptyCollection category header =
      if Text.isBlank category then .error (.invalidArgument "category" .blank)
      else if Text.isBlank header then .error (.invalidArgument "header" .blank)
      else .ok (h.allocCollection ⟨category, header, ErrorSet.empty h.hasher, none⟩) := by
  unfold emptyCollection Guard.notBlank
  by_cases hcategory : Text.isBlank category <;> by_cases hheader : Text.isBlank header <;>
    simp [hcategory, hheader] <;> rfl

theorem createCollection_eq (category header : String) (errors : List ErrorId) :
    h.createCollection category header errors =
      if errors.isEmpty then .error (.invalidArgument "errors" .empty)
      else (h.emptyCollection category header).map fun r =>
        ((r.1.tryInsertErrors r.2 errors).1, r.2) := by
  unfold createCollection Guard.notEmpty
  by_cases hempty : errors.isEmpty
  · simp [hempty]
    rfl
  · cases h.emptyCollection category header <;> simp [hempty] <;> rfl

theorem tryInsertError_fst (c : CollectionId) (e : ErrorId) :
    (h.tryInsertError c e).1 = h ∨ (h.tryInsertError c e).1 = h.pushAll c [e] := by
  unfold tryInsertError
  split
  · exact .inl rfl
  · exact .inr rfl

/-- Adding errors one by one appends some of them, in their order. -/
theorem exists_tryInsertErrors_eq_pushAll (c : CollectionId) (errors : List ErrorId) :
    ∃ kept, kept.Sublist errors ∧ (h.tryInsertErrors c errors).1 = h.pushAll c kept := by
  induction errors generalizing h with
  | nil => exact ⟨[], List.Sublist.slnil, rfl⟩
  | cons e rest ih =>
      obtain ⟨kept, hsub, hkept⟩ := ih (h := (h.tryInsertError c e).1)
      have hfirst : (h.tryInsertErrors c (e :: rest)).1 =
          ((h.tryInsertError c e).1.tryInsertErrors c rest).1 := rfl
      rcases tryInsertError_fst (h := h) c e with hkeep | hpush
      · refine ⟨kept, hsub.cons e, ?_⟩
        rw [hfirst, hkept, hkeep]
      · refine ⟨e :: kept, hsub.cons_cons e, ?_⟩
        rw [hfirst, hkept, hpush]
        rfl

/-- A new collection holding one error is a new empty collection to which the error is
appended. -/
theorem singleCollection_fst (e : ErrorId) :
    (h.singleCollection e).1 =
      (h.allocCollection ⟨(h.error e).kind.name, (h.error e).description,
        ErrorSet.empty h.hasher, none⟩).1.pushAll ⟨h.collections.size⟩ [e] := by
  simp only [singleCollection, pushAll, List.foldl_cons, List.foldl_nil, pushLocal,
    modifyCollection, allocCollection, fingerprint, error]
  congr 1
  apply Array.ext
  · simp
  · intro i hi _
    simp only [Array.size_push] at hi
    by_cases hlast : i = h.collections.size
    · subst hlast
      simp [Array.getElem_modify]
    · have hlt : i < h.collections.size := by omega
      simp [Array.getElem_modify, Array.getElem_push, hlt, Ne.symm hlast]

/-- Every operation on live nodes keeps the heap or makes one of the changes of `Change`. -/
theorem Op.change {op : Op} (hvalid : op.Valid h) : Change h (h.apply op) := by
  cases op with
  | createError kind description details cause =>
      rw [apply, createError_eq]
      split
      · exact .keep
      · split
        · split
          · exact .keep
          · exact .allocError _ hvalid
        · exact .allocError _ (by simp)
  | setErrorCause target cause =>
      obtain ⟨-, hcause⟩ := hvalid
      cases cause with
      | none => exact .writeErrorCause target none (by simp)
      | some c =>
          rw [apply, Heap.setErrorCause]
          split
          · next chain hchain =>
              split
              · exact .keep
              · next hnot =>
                  refine .writeErrorCause target (some c) fun c' hc' => ?_
                  cases hc'
                  refine ⟨hcause c rfl, chain, (h.errorChain?_eq_some_iff.mp hchain).1, ?_⟩
                  simpa using hnot
          · exact .keep
  | emptyCollection category header =>
      rw [apply, emptyCollection_eq]
      split
      · exact .keep
      · split
        · exact .keep
        · exact .allocCollection category header [] (by simp)
  | createCollection category header errors =>
      rw [apply, createCollection_eq, emptyCollection_eq]
      split
      · exact .keep
      · split
        · exact .keep
        · split
          · exact .keep
          · obtain ⟨kept, hsub, hkept⟩ := exists_tryInsertErrors_eq_pushAll
              (h := (h.allocCollection ⟨category, header, ErrorSet.empty h.hasher, none⟩).1)
              (h.allocCollection ⟨category, header, ErrorSet.empty h.hasher, none⟩).2 errors
            show Change h (Prod.fst (Heap.tryInsertErrors _ _ errors))
            rw [hkept]
            exact .allocCollection category header kept fun e he => hvalid e (hsub.subset he)
  | singleCollection e =>
      have he : h.HasError e := hvalid
      rw [apply, singleCollection_fst]
      exact .allocCollection _ _ [e] (by simpa using he)
  | insertError c e =>
      obtain ⟨hc, he⟩ := hvalid
      rw [apply, Heap.insertError]
      split
      · exact .keep
      · exact .pushAll c [e] hc (by simpa using he)
  | tryInsertError c e =>
      obtain ⟨hc, he⟩ := hvalid
      rw [apply]
      rcases tryInsertError_fst (h := h) c e with hkeep | hpush
      · rw [hkeep]
        exact .keep
      · rw [hpush]
        exact .pushAll c [e] hc (by simpa using he)
  | insertErrors c errors =>
      obtain ⟨hc, herrors⟩ := hvalid
      rw [apply, Heap.insertErrors]
      split
      · exact .keep
      · exact .pushAll c errors hc herrors
  | tryInsertErrors c errors =>
      obtain ⟨hc, herrors⟩ := hvalid
      obtain ⟨kept, hsub, hkept⟩ := exists_tryInsertErrors_eq_pushAll (h := h) c errors
      rw [apply, hkept]
      exact .pushAll c kept hc fun e he => herrors e (hsub.subset he)
  | setCollectionCause target cause =>
      obtain ⟨-, hcause⟩ := hvalid
      cases cause with
      | none => exact .writeCollectionCause target none (by simp)
      | some c =>
          rw [apply, Heap.setCollectionCause]
          split
          · exact .keep
          · split
            · next chain hchain =>
                split
                · exact .keep
                · next hnot =>
                    refine .writeCollectionCause target (some c) fun c' hc' => ?_
                    cases hc'
                    refine ⟨hcause c rfl, chain,
                      (h.collectionChain?_eq_some_iff.mp hchain).1, ?_⟩
                    simpa using hnot
            · exact .keep

end Operations

/-- A property of the empty heaps that every change keeps holds of every reachable heap. -/
theorem Reachable.invariant {P : Heap → Prop} (hempty : ∀ hasher, P { hasher := hasher })
    (hchange : ∀ {h h' : Heap}, P h → Change h h' → P h') {h : Heap} (hr : Reachable h) : P h := by
  induction hr with
  | empty hasher => exact hempty hasher
  | step op _ hvalid ih => exact hchange ih (Op.change hvalid)
  | rekey hasher _ ih => exact hchange ih (.rekey hasher)

end ErrorTrail.Heap
