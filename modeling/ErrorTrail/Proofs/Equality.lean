import ErrorTrail.Proofs.Acyclic

/-! # Structural equality is equality of the chains' fingerprint lists in every heap whose
chains end. -/

namespace ErrorTrail.Heap

variable {h : Heap}

theorem sameChains_self (l : List ErrorId) : h.sameChains l l = true := by
  cases l with
  | nil => rfl
  | cons x rest => simp [sameChains]

/-- The chain the library computes for an error starts with the error, whether or not it ends. -/
theorem errorChain_eq_cons (h : Heap) (e : ErrorId) : h.errorChain e = e :: (h.errorChain e).tail := by
  unfold errorChain
  cases hwalk : h.errorChain? e with
  | none => rfl
  | some l => exact (h.errorChain?_eq_some_iff.mp hwalk).1.eq_cons

/-- Equal errors have equal fingerprints, in every heap: the first step compares the errors
themselves. -/
theorem fingerprint_eq_of_sameError {a b : ErrorId} (hab : h.sameError a b = true) :
    h.fingerprint a = h.fingerprint b := by
  rw [sameError, errorChain_eq_cons h a, errorChain_eq_cons h b, sameChains] at hab
  simp only [Bool.or_eq_true, beq_iff_eq, Bool.and_eq_true] at hab
  rcases hab with rfl | ⟨hprint, -⟩
  · rfl
  · exact hprint

/-- On two chains that end, the lockstep comparison decides equality of the fingerprint lists:
where it stops early at a shared node, the rest of both chains is that node's chain. -/
theorem sameChains_iff {a b : ErrorId} {la lb : List ErrorId}
    (ha : Links.Ends h.errorCause a la) (hb : Links.Ends h.errorCause b lb) :
    h.sameChains la lb = true ↔ la.map h.fingerprint = lb.map h.fingerprint := by
  induction ha generalizing b lb with
  | @last a hnone =>
      by_cases hab : a = b
      · subst hab
        rw [(Links.Ends.last hnone).unique hb, sameChains_self]
        simp
      · cases hb with
        | last _ => simp [sameChains, hab]
        | link _ hrest =>
            rw [hrest.eq_cons]
            simp [sameChains, hab]
  | @link a c la hsome hrest ih =>
      by_cases hab : a = b
      · subst hab
        rw [(Links.Ends.link hsome hrest).unique hb, sameChains_self]
        simp
      · cases hb with
        | last _ =>
            rw [hrest.eq_cons]
            simp [sameChains, hab]
        | link _ hrest' => simp [sameChains, hab, ih hrest']

/-- In a heap whose chains end, two errors are equal exactly when their chains have the same
fingerprints, link by link. -/
theorem Linked.sameError_iff (hl : h.Linked) (a b : ErrorId) :
    h.sameError a b = true ↔
      (h.errorChain a).map h.fingerprint = (h.errorChain b).map h.fingerprint :=
  sameChains_iff (hl.errorChain_ends a) (hl.errorChain_ends b)

theorem Linked.sameError_refl (hl : h.Linked) (a : ErrorId) : h.sameError a a = true :=
  (hl.sameError_iff a a).mpr rfl

theorem Linked.sameError_comm (hl : h.Linked) (a b : ErrorId) :
    h.sameError a b = h.sameError b a := by
  rw [Bool.eq_iff_iff, hl.sameError_iff, hl.sameError_iff]
  exact eq_comm

theorem Linked.sameError_trans (hl : h.Linked) {a b c : ErrorId} (hab : h.sameError a b = true)
    (hbc : h.sameError b c = true) : h.sameError a c = true := by
  rw [hl.sameError_iff] at hab hbc ⊢
  exact hab.trans hbc

/-- In every reachable heap, structural equality of errors is equality of the fingerprint lists
of their chains (kind name, description and details, link by link, in a list of the same
length); it is therefore an equivalence, and equal errors have equal fingerprints, the fields
their hash is taken of. -/
theorem Reachable.sameError_iff_fingerprints {h : Heap} (hr : Reachable h) :
    (∀ a b, h.sameError a b = true ↔
      (h.errorChain a).map h.fingerprint = (h.errorChain b).map h.fingerprint) ∧
    (∀ a, h.sameError a a = true) ∧
    (∀ a b, h.sameError a b = h.sameError b a) ∧
    (∀ a b c, h.sameError a b = true → h.sameError b c = true → h.sameError a c = true) ∧
    (∀ a b, h.sameError a b = true → h.fingerprint a = h.fingerprint b) := by
  have hl := hr.linked
  exact ⟨hl.sameError_iff, hl.sameError_refl, hl.sameError_comm,
    fun _ _ _ => hl.sameError_trans, fun _ _ => fingerprint_eq_of_sameError⟩

/-- A failure caused by another and a failure of the same description with no cause, after the
first loses its cause. -/
theorem sameError_iff_fingerprints_after_cause_cleared :
    Reachable (((({} : Heap).apply (.createError Kind.failure "x" none none)
      |>.apply (.createError Kind.failure "retry failed" none (some ⟨0⟩)))
      |>.apply (.createError Kind.failure "retry failed" none none))
      |>.apply (.setErrorCause ⟨1⟩ none)) ∧
    let h := ((({} : Heap).apply (.createError Kind.failure "x" none none)
      |>.apply (.createError Kind.failure "retry failed" none (some ⟨0⟩)))
      |>.apply (.createError Kind.failure "retry failed" none none))
      |>.apply (.setErrorCause ⟨1⟩ none)
    (∀ a b, h.sameError a b = true ↔
      (h.errorChain a).map h.fingerprint = (h.errorChain b).map h.fingerprint) ∧
    (∀ a, h.sameError a a = true) ∧
    (∀ a b, h.sameError a b = h.sameError b a) ∧
    (∀ a b c, h.sameError a b = true → h.sameError b c = true → h.sameError a c = true) ∧
    (∀ a b, h.sameError a b = true → h.fingerprint a = h.fingerprint b) := by
  have hr : Reachable (((({} : Heap).apply (.createError Kind.failure "x" none none)
      |>.apply (.createError Kind.failure "retry failed" none (some ⟨0⟩)))
      |>.apply (.createError Kind.failure "retry failed" none none))
      |>.apply (.setErrorCause ⟨1⟩ none)) := by
    refine .step _ (.step _ (.step _ (.step _ (.empty hash) ?_) ?_) ?_) ?_
    · simp [Op.Valid]
    · simp only [Op.Valid, Option.some.injEq, forall_eq']
      decide
    · simp [Op.Valid]
    · simp only [Op.Valid, reduceCtorEq, false_implies, implies_true, and_true]
      decide
  exact ⟨hr, Reachable.sameError_iff_fingerprints hr⟩

end ErrorTrail.Heap
