import ErrorTrail.Outcome
import ErrorTrail.Proofs.Reachable

/-! # Outcomes pass collection operations to their collection, and refuse them for a value. -/

namespace ErrorTrail.Outcome

variable {α β γ : Type}

/-- An operation through an outcome: on a failed outcome, the operation on its collection; on a
value, a refusal that names the operation. -/
theorem collectionFor_bind (o : Outcome α) (operation : Operation)
    (f : CollectionId → Except Violation γ) :
    (o.collectionFor operation >>= f) =
      match o with
      | .failed c => f c
      | .value _ => .error (.wrongState operation .error .value) := by
  cases o <;> rfl

@[simp] theorem collectionFor_failed (operation : Operation) (c : CollectionId) :
    (failed c : Outcome α).collectionFor operation = .ok c := rfl

@[simp] theorem collectionFor_value (operation : Operation) (v : α) :
    (value v).collectionFor operation = .error (.wrongState operation .error .value) := rfl

@[simp] theorem valueFor_failed (operation : Operation) (c : CollectionId) :
    (failed c : Outcome α).valueFor operation = .error (.wrongState operation .value .error) := rfl

@[simp] theorem valueFor_value (operation : Operation) (v : α) :
    (value v).valueFor operation = .ok v := rfl

/-! ## Each state -/

/-- A failed outcome answers each collection operation as its collection does, with the same
heap, and refuses the value operations. -/
structure PassesThrough (α : Type) (c : CollectionId) (h : Heap) : Prop where
  addError : ∀ e, (failed c : Outcome α).addError h e = h.insertError c e
  tryAddError : ∀ e, (failed c : Outcome α).tryAddError h e = .ok (h.tryInsertError c e)
  setCause : ∀ cause, (failed c : Outcome α).setCause h cause = h.setCollectionCause c cause
  findByKind : ∀ k, (failed c : Outcome α).findByKind h k = .ok (h.findLocalByKind c k)
  findByKindDeep : ∀ k, (failed c : Outcome α).findByKindDeep h k = .ok (h.findByKindDeep c k)
  mostSevereDeep : (failed c : Outcome α).mostSevereDeep h = .ok (h.mostSevereDeep c)
  unwrapErrorCollection : (failed c : Outcome α).collectionFor .unwrapErrorCollection = .ok c
  intoErrorCollection : (failed c : Outcome α).collectionFor .intoErrorCollection = .ok c
  unwrapValue : (failed c : Outcome α).valueFor .unwrapValue =
    .error (.wrongState .unwrapValue .value .error)
  intoValue : (failed c : Outcome α).valueFor .intoValue =
    .error (.wrongState .intoValue .value .error)

/-- An outcome holding a value refuses each collection operation, naming it, so no heap is
given back and nothing changes; the value operations give the value. -/
structure RefusesCollection (v : α) (h : Heap) : Prop where
  addError : ∀ e, (value v).addError h e = .error (.wrongState .addError .error .value)
  tryAddError : ∀ e, (value v).tryAddError h e = .error (.wrongState .tryAddError .error .value)
  setCause : ∀ cause, (value v).setCause h cause = .error (.wrongState .setCause .error .value)
  setCauseFrom : ∀ {β : Type} (other : Outcome β),
    (value v).setCauseFrom other h = .error (.wrongState .setCauseFrom .error .value)
  findByKind : ∀ k, (value v).findByKind h k = .error (.wrongState .findByKind .error .value)
  findByKindDeep : ∀ k,
    (value v).findByKindDeep h k = .error (.wrongState .findByKindDeep .error .value)
  mostSevereDeep : (value v).mostSevereDeep h = .error (.wrongState .mostSevereDeep .error .value)
  unwrapErrorCollection : (value v).collectionFor .unwrapErrorCollection =
    .error (.wrongState .unwrapErrorCollection .error .value)
  intoErrorCollection : (value v).collectionFor .intoErrorCollection =
    .error (.wrongState .intoErrorCollection .error .value)
  unwrapValue : (value v).valueFor .unwrapValue = .ok v
  intoValue : (value v).valueFor .intoValue = .ok v

theorem passesThrough (c : CollectionId) (h : Heap) : PassesThrough α c h where
  addError e := collectionFor_bind (failed c) .addError (h.insertError · e)
  tryAddError e := collectionFor_bind (failed c) .tryAddError fun d => pure (h.tryInsertError d e)
  setCause cause := collectionFor_bind (failed c) .setCause (h.setCollectionCause · cause)
  findByKind k := collectionFor_bind (failed c) .findByKind fun d => pure (h.findLocalByKind d k)
  findByKindDeep k :=
    collectionFor_bind (failed c) .findByKindDeep fun d => pure (h.findByKindDeep d k)
  mostSevereDeep := collectionFor_bind (failed c) .mostSevereDeep fun d => pure (h.mostSevereDeep d)
  unwrapErrorCollection := collectionFor_failed _ c
  intoErrorCollection := collectionFor_failed _ c
  unwrapValue := valueFor_failed _ c
  intoValue := valueFor_failed _ c

theorem refusesCollection (v : α) (h : Heap) : RefusesCollection v h where
  addError e := collectionFor_bind (value v) .addError (h.insertError · e)
  tryAddError e := collectionFor_bind (value v) .tryAddError fun d => pure (h.tryInsertError d e)
  setCause cause := collectionFor_bind (value v) .setCause (h.setCollectionCause · cause)
  setCauseFrom _ := collectionFor_bind (value v) .setCauseFrom _
  findByKind k := collectionFor_bind (value v) .findByKind fun d => pure (h.findLocalByKind d k)
  findByKindDeep k :=
    collectionFor_bind (value v) .findByKindDeep fun d => pure (h.findByKindDeep d k)
  mostSevereDeep := collectionFor_bind (value v) .mostSevereDeep fun d => pure (h.mostSevereDeep d)
  unwrapErrorCollection := collectionFor_value _ v
  intoErrorCollection := collectionFor_value _ v
  unwrapValue := valueFor_value _ v
  intoValue := valueFor_value _ v

/-! ## One outcome the cause of another -/

/-- Both outcomes are asked for their collections, this one first, each refusal naming the
operation; two collections make the second the cause of the first. -/
theorem setCauseFrom_eq (o : Outcome α) (other : Outcome β) (h : Heap) :
    o.setCauseFrom other h =
      match o, other with
      | .failed c, .failed d => h.setCollectionCause c (some d)
      | _, _ => .error (.wrongState .setCauseFrom .error .value) := by
  cases o <;> cases other <;> rfl

/-- Two outcomes of one collection: the collection is refused as its own cause. -/
theorem setCauseFrom_same (c : CollectionId) (h : Heap) :
    (failed c : Outcome α).setCauseFrom (failed c : Outcome β) h =
      .error (.selfReference (.collection (h.collection c).header)) := by
  rw [setCauseFrom_eq]
  simp [Heap.setCollectionCause]

/-! ## Mapping and continuing -/

@[simp] theorem branch_map (f : α → β) (o : Outcome α) : (o.map f).branch = o.branch := by
  cases o <;> rfl

@[simp] theorem map_failed (f : α → β) (c : CollectionId) : (failed c).map f = failed c := rfl

@[simp] theorem bind_failed (c : CollectionId) (f : α → Heap → Heap × Outcome β) (h : Heap) :
    (failed c).bind f h = (h, failed c) := rfl

/-- In every heap, a failed outcome answers each collection operation exactly as its
collection does, with the same heap, and refuses the value operations; an outcome holding a
value refuses each collection operation, naming it; making one outcome's collection the cause of
another's asks both, this one first, and refuses one collection as its own cause; and mapping or
continuing a failed outcome keeps the same collection node and the heap. -/
theorem delegatesToCollection (h : Heap) :
    (∀ c, PassesThrough α c h) ∧ (∀ v : α, RefusesCollection v h) ∧
    (∀ (o : Outcome α) (other : Outcome β), o.setCauseFrom other h =
      match o, other with
      | .failed c, .failed d => h.setCollectionCause c (some d)
      | _, _ => .error (.wrongState .setCauseFrom .error .value)) ∧
    (∀ c, (failed c : Outcome α).setCauseFrom (failed c : Outcome β) h =
      .error (.selfReference (.collection (h.collection c).header))) ∧
    (∀ (f : α → β) (o : Outcome α), (o.map f).branch = o.branch) ∧
    (∀ (f : α → β) c, (failed c : Outcome α).map f = failed c) ∧
    (∀ (f : α → Heap → Heap × Outcome β) c,
      (failed c : Outcome α).bind f h = (h, failed c)) :=
  ⟨fun c => passesThrough c h, fun v => refusesCollection v h,
    fun o other => setCauseFrom_eq o other h,
    fun c => setCauseFrom_same c h, branch_map, map_failed, fun f c => bind_failed c f h⟩

end ErrorTrail.Outcome

/-! ## Programs that work through outcomes -/

namespace ErrorTrail.Heap

variable {α β : Type} {h : Heap}

-- A refused operation gives no heap, so the program goes on with the old one; an accepted one
-- is the collection's own operation, a step of `Reachable`.

theorem Reachable.orKeep_addError (hr : h.Reachable) (o : Outcome α) (e : ErrorId)
    (hvalid : ∀ c, o = .failed c → (Op.insertError c e).Valid h) :
    (h.orKeep (o.addError h e)).Reachable := by
  cases o with
  | value v => exact hr
  | failed c => exact hr.step (.insertError c e) (hvalid c rfl)

theorem Reachable.orKeep_tryAddError (hr : h.Reachable) (o : Outcome α) (e : ErrorId)
    (hvalid : ∀ c, o = .failed c → (Op.tryInsertError c e).Valid h) :
    (h.orKeep ((o.tryAddError h e).map Prod.fst)).Reachable := by
  cases o with
  | value v => exact hr
  | failed c => exact hr.step (.tryInsertError c e) (hvalid c rfl)

theorem Reachable.orKeep_setCause (hr : h.Reachable) (o : Outcome α)
    (cause : Option CollectionId)
    (hvalid : ∀ c, o = .failed c → (Op.setCollectionCause c cause).Valid h) :
    (h.orKeep (o.setCause h cause)).Reachable := by
  cases o with
  | value v => exact hr
  | failed c => exact hr.step (.setCollectionCause c cause) (hvalid c rfl)

theorem Reachable.orKeep_setCauseFrom (hr : h.Reachable) (o : Outcome α) (other : Outcome β)
    (hvalid : ∀ c d, o = .failed c → other = .failed d →
      (Op.setCollectionCause c (some d)).Valid h) :
    (h.orKeep (o.setCauseFrom other h)).Reachable := by
  cases o with
  | value v => exact hr
  | failed c =>
      cases other with
      | value v => exact hr
      | failed d => exact hr.step (.setCollectionCause c (some d)) (hvalid c d rfl rfl)

end ErrorTrail.Heap
