import ErrorTrail.Proofs.Insertion

/-! # Adding a list of errors at once: all of it exactly when no error equals a held or an
earlier one, and otherwise nothing. -/

namespace ErrorTrail.Heap

/-- The error at position `j` of `l` equals an error of `held` or an error at an earlier position
of `l`. -/
def RepeatsAt (h : Heap) (held l : List ErrorId) (j : Nat) : Prop :=
  ∃ e, l[j]? = some e ∧
    ((∃ x ∈ held, h.sameError x e = true) ∨ ∃ i < j, ∃ x, l[i]? = some x ∧ h.sameError x e = true)

section Positions

variable {h : Heap} {held rest : List ErrorId} {x : ErrorId}

theorem repeatsAt_cons_zero : h.RepeatsAt held (x :: rest) 0 ↔ held.any (h.sameError · x) = true := by
  simp [RepeatsAt, List.any_eq_true]

/-- Past the first error, a position repeats when it repeats in the rest with the first error
held. -/
theorem repeatsAt_cons_succ {j : Nat} :
    h.RepeatsAt held (x :: rest) (j + 1) ↔ h.RepeatsAt (held ++ [x]) rest j := by
  unfold RepeatsAt
  simp only [List.getElem?_cons_succ]
  refine exists_congr fun e => and_congr_right fun _ => ?_
  constructor
  · rintro (⟨y, hy, hsame⟩ | ⟨i, hi, y, hy, hsame⟩)
    · exact .inl ⟨y, List.mem_append_left _ hy, hsame⟩
    · cases i with
      | zero =>
          have hyx : y = x := by simpa using hy.symm
          exact .inl ⟨y, by simp [hyx], hsame⟩
      | succ i => exact .inr ⟨i, by omega, y, by simpa using hy, hsame⟩
  · rintro (⟨y, hy, hsame⟩ | ⟨i, hi, y, hy, hsame⟩)
    · rcases List.mem_append.mp hy with hy | hy
      · exact .inl ⟨y, hy, hsame⟩
      · rw [List.mem_singleton.mp hy] at hsame
        exact .inr ⟨0, by omega, x, rfl, hsame⟩
    · exact .inr ⟨i + 1, by omega, y, hy, hsame⟩

/-- The linear scan finds the error at the least position that repeats. -/
theorem firstEqual?_eq_some_iff {l : List ErrorId} {e : ErrorId} :
    h.firstEqual? held l = some e ↔
      ∃ j, l[j]? = some e ∧ h.RepeatsAt held l j ∧ ∀ i < j, ¬ h.RepeatsAt held l i := by
  induction l generalizing held with
  | nil => simp [firstEqual?]
  | cons x rest ih =>
      rw [firstEqual?]
      by_cases hdup : held.any (h.sameError · x) = true
      · -- the first error repeats, and no position comes before it
        rw [if_pos hdup]
        constructor
        · rintro ⟨⟩
          exact ⟨0, rfl, repeatsAt_cons_zero.mpr hdup, fun i hi => absurd hi (Nat.not_lt_zero i)⟩
        · rintro ⟨j, hj, -, hfirst⟩
          cases j with
          | zero => simpa using hj
          | succ j => exact absurd (repeatsAt_cons_zero.mpr hdup) (hfirst 0 (Nat.succ_pos j))
      · -- past a first error that does not repeat, positions shift by one
        rw [if_neg hdup, ih]
        constructor
        · rintro ⟨j, hj, hrep, hfirst⟩
          refine ⟨j + 1, hj, repeatsAt_cons_succ.mpr hrep, fun i hi => ?_⟩
          cases i with
          | zero => rwa [repeatsAt_cons_zero]
          | succ i =>
              rw [repeatsAt_cons_succ]
              exact hfirst i (by omega)
        · rintro ⟨j, hj, hrep, hfirst⟩
          cases j with
          | zero => exact absurd (repeatsAt_cons_zero.mp hrep) hdup
          | succ j =>
              refine ⟨j, hj, repeatsAt_cons_succ.mp hrep, fun i hi => ?_⟩
              rw [← repeatsAt_cons_succ]
              exact hfirst (i + 1) (by omega)

theorem firstEqual?_eq_none_iff {l : List ErrorId} :
    h.firstEqual? held l = none ↔ ∀ j, ¬ h.RepeatsAt held l j := by
  induction l generalizing held with
  | nil => simp [firstEqual?, RepeatsAt]
  | cons x rest ih =>
      rw [firstEqual?]
      by_cases hdup : held.any (h.sameError · x) = true
      · rw [if_pos hdup]
        simp only [reduceCtorEq, false_iff, not_forall, not_not]
        exact ⟨0, repeatsAt_cons_zero.mpr hdup⟩
      · rw [if_neg hdup, ih]
        constructor
        · intro hnone j
          cases j with
          | zero => rwa [repeatsAt_cons_zero]
          | succ j =>
              rw [repeatsAt_cons_succ]
              exact hnone j
        · intro hnone j
          rw [← repeatsAt_cons_succ]
          exact hnone (j + 1)

theorem firstOfEach_sublist (seen l : List ErrorId) : (h.firstOfEach seen l).Sublist l := by
  induction l generalizing seen with
  | nil => exact List.Sublist.slnil
  | cons e rest ih =>
      rw [firstOfEach]
      split
      · exact (ih _).cons e
      · exact (ih _).cons_cons e

/-- Greedy deduplication keeps the whole list exactly when the linear scan finds no repeat. -/
theorem firstOfEach_eq_self_iff (seen l : List ErrorId) :
    h.firstOfEach seen l = l ↔ h.firstEqual? seen l = none := by
  induction l generalizing seen with
  | nil => simp [firstOfEach, firstEqual?]
  | cons e rest ih =>
      rw [firstOfEach, firstEqual?]
      by_cases hdup : seen.any (h.sameError · e) = true
      · -- a dropped error leaves a list shorter than the whole
        rw [if_pos hdup, if_pos hdup]
        have hshort := (firstOfEach_sublist (h := h) (seen ++ [e]) rest).length_le
        simp only [reduceCtorEq, iff_false]
        intro heq
        have hlength := congrArg List.length heq
        rw [List.length_cons] at hlength
        omega
      · rw [if_neg hdup, if_neg hdup, List.cons.injEq, ih]
        simp

end Positions

/-! ## Adding the list, all at once and one by one -/

section Insertion

variable {h : Heap} {c : CollectionId} {l : List ErrorId}

/-- Before any error of the list is seen, the search for a duplicate scans the collection's own
errors. -/
theorem SetsIndexed.firstDuplicate?_empty (hs : h.SetsIndexed) (c : CollectionId) (l : List ErrorId) :
    h.firstDuplicate? c (ErrorSet.empty h.hasher) l = h.firstEqual? (h.localErrors c) l := by
  rw [hs.firstDuplicate?_eq c (ErrorSet.indexed_empty h.hasher), ErrorSet.toList_empty,
    List.append_nil]

theorem SetsIndexed.insertErrors_eq_ok (hs : h.SetsIndexed)
    (hnone : h.firstEqual? (h.localErrors c) l = none) : h.insertErrors c l = .ok (h.pushAll c l) := by
  rw [insertErrors, hs.firstDuplicate?_empty, hnone]
  rfl

theorem SetsIndexed.insertErrors_eq_error (hs : h.SetsIndexed) {e : ErrorId}
    (hsome : h.firstEqual? (h.localErrors c) l = some e) :
    h.insertErrors c l = .error (.duplicate (h.error e).description) := by
  rw [insertErrors, hs.firstDuplicate?_empty, hsome]

theorem SetsIndexed.insertErrors_ok_iff (hs : h.SetsIndexed) :
    (∃ h', h.insertErrors c l = .ok h') ↔ h.firstEqual? (h.localErrors c) l = none := by
  cases hfirst : h.firstEqual? (h.localErrors c) l with
  | none => exact ⟨fun _ => rfl, fun _ => ⟨_, hs.insertErrors_eq_ok hfirst⟩⟩
  | some e =>
      simp only [reduceCtorEq, iff_false, not_exists]
      intro h' hok
      rw [hs.insertErrors_eq_error hfirst] at hok
      cases hok

/-- Adding one by one counts the errors that greedy deduplication keeps. -/
theorem Linked.count_tryInsertErrors_eq (hl : h.Linked) (hs : h.SetsIndexed)
    (hc : h.HasCollection c) (l : List ErrorId) :
    (h.tryInsertErrors c l).2 = (h.firstOfEach (h.localErrors c) l).length := by
  have hcount := count_tryInsertErrors hs.indexed hc l
  rw [hl.foldl_appendNew_eq_firstOfEach, List.length_append] at hcount
  omega

theorem Linked.count_tryInsertErrors_eq_length_iff (hl : h.Linked) (hs : h.SetsIndexed)
    (hc : h.HasCollection c) :
    (h.tryInsertErrors c l).2 = l.length ↔ h.firstEqual? (h.localErrors c) l = none := by
  rw [hl.count_tryInsertErrors_eq hs hc, (firstOfEach_sublist _ l).length_eq,
    firstOfEach_eq_self_iff]

/-- With no repeat in the list, adding one by one appends the whole list, as adding all at once
does. -/
theorem Linked.tryInsertErrors_eq_of_firstEqual?_eq_none (hl : h.Linked) (hs : h.SetsIndexed)
    (hc : h.HasCollection c) (hnone : h.firstEqual? (h.localErrors c) l = none) :
    h.tryInsertErrors c l = (h.pushAll c l, l.length) := by
  obtain ⟨added, hfold, hrun⟩ := exists_tryInsertErrors_eq hs.indexed hc l
  rw [hl.foldl_appendNew_eq_firstOfEach, (firstOfEach_eq_self_iff _ l).mpr hnone] at hfold
  rw [hrun, List.append_cancel_left hfold]

end Insertion

/-! ## Every reachable heap -/

/-- How adding a list of errors to collection `c` behaves: it succeeds exactly when no position
of the list repeats an error of the collection or an earlier one of the list, which is exactly
when adding the errors one by one would add them all; then both append the whole list and leave
the same heap. Otherwise the violation is a duplicate naming the error at the least position that
repeats, and the heap is left as it was. The empty list is always added. -/
structure AllOrNothing (h : Heap) (c : CollectionId) : Prop where
  ok_iff_no_repeat : ∀ l, (∃ h', h.insertErrors c l = .ok h') ↔
    ∀ j, ¬ h.RepeatsAt (h.localErrors c) l j
  ok_iff_count : ∀ l, (∃ h', h.insertErrors c l = .ok h') ↔ (h.tryInsertErrors c l).2 = l.length
  ok_appends : ∀ l h', h.insertErrors c l = .ok h' →
    h.tryInsertErrors c l = (h', l.length) ∧ h'.localErrors c = h.localErrors c ++ l
  error_first : ∀ l v, h.insertErrors c l = .error v →
    ∃ j e, l[j]? = some e ∧ h.RepeatsAt (h.localErrors c) l j ∧
      (∀ i < j, ¬ h.RepeatsAt (h.localErrors c) l i) ∧ v = .duplicate (h.error e).description
  duplicate_class : ∀ description : String,
    (Violation.duplicate description).className = "DuplicateError"
  error_keeps : ∀ l v, h.insertErrors c l = .error v → h.apply (.insertErrors c l) = h
  nil_ok : h.insertErrors c [] = .ok h

/-- In every reachable heap, adding a list of errors to a collection is all or nothing: it
succeeds exactly when no error of the list equals an error of the collection or an earlier error
of the list, equivalently when adding them one by one would add every one, and then appends the
whole list in order; otherwise it names the first error that repeats and changes nothing. -/
theorem Reachable.allOrNothing {h : Heap} (hr : Reachable h) {c : CollectionId}
    (hc : h.HasCollection c) : h.AllOrNothing c where
  ok_iff_no_repeat _ := hr.setsIndexed.insertErrors_ok_iff.trans firstEqual?_eq_none_iff
  ok_iff_count _ := hr.setsIndexed.insertErrors_ok_iff.trans
    (hr.linked.count_tryInsertErrors_eq_length_iff hr.setsIndexed hc).symm
  ok_appends l h' hok := by
    have hs := hr.setsIndexed
    have hnone := hs.insertErrors_ok_iff.mp ⟨h', hok⟩
    rw [hs.insertErrors_eq_ok hnone, Except.ok.injEq] at hok
    subst hok
    exact ⟨hr.linked.tryInsertErrors_eq_of_firstEqual?_eq_none hs hc hnone,
      localErrors_pushAll_self hc l⟩
  error_first l v herror := by
    have hs := hr.setsIndexed
    cases hfirst : h.firstEqual? (h.localErrors c) l with
    | none =>
        rw [hs.insertErrors_eq_ok hfirst] at herror
        cases herror
    | some e =>
        rw [hs.insertErrors_eq_error hfirst, Except.error.injEq] at herror
        obtain ⟨j, hj, hrep, hfirst⟩ := firstEqual?_eq_some_iff.mp hfirst
        exact ⟨j, e, hj, hrep, hfirst, herror.symm⟩
  duplicate_class _ := rfl
  error_keeps l v herror := by
    rw [apply, herror]
    rfl
  nil_ok := rfl

/-- A collection holding a failure `a` is refused the list of a failure `b` and a second
failure `a`, which adding one by one would shorten to `b` alone. -/
theorem allOrNothing_refuses_held_twin :
    Reachable ((((({ hasher := fun _ => 0 } : Heap).apply
        (.createError Kind.failure "a" none none)
      |>.apply (.emptyCollection "io" "write failed"))
      |>.apply (.insertError ⟨0⟩ ⟨0⟩))
      |>.apply (.createError Kind.failure "b" none none))
      |>.apply (.createError Kind.failure "a" none none)) ∧
    let h := ((((({ hasher := fun _ => 0 } : Heap).apply
        (.createError Kind.failure "a" none none)
      |>.apply (.emptyCollection "io" "write failed"))
      |>.apply (.insertError ⟨0⟩ ⟨0⟩))
      |>.apply (.createError Kind.failure "b" none none))
      |>.apply (.createError Kind.failure "a" none none))
    h.HasCollection ⟨0⟩ ∧ h.AllOrNothing ⟨0⟩ ∧
      (h.tryInsertErrors ⟨0⟩ [⟨1⟩, ⟨2⟩]).2 = 1 ∧ ¬ ∃ h', h.insertErrors ⟨0⟩ [⟨1⟩, ⟨2⟩] = .ok h' := by
  have hr : Reachable ((((({ hasher := fun _ => 0 } : Heap).apply
        (.createError Kind.failure "a" none none)
      |>.apply (.emptyCollection "io" "write failed"))
      |>.apply (.insertError ⟨0⟩ ⟨0⟩))
      |>.apply (.createError Kind.failure "b" none none))
      |>.apply (.createError Kind.failure "a" none none)) := by
    refine .step _ (.step _ (.step _ (.step _ (.step _ (.empty _) ?_) ?_) ?_) ?_) ?_
    · simp [Op.Valid]
    · trivial
    · exact ⟨by decide, by decide⟩
    · simp [Op.Valid]
    · simp [Op.Valid]
  refine ⟨hr, ?_⟩
  intro h
  have hc : h.HasCollection ⟨0⟩ := by decide +kernel
  have hall := Reachable.allOrNothing hr hc
  have hcount : (h.tryInsertErrors ⟨0⟩ [⟨1⟩, ⟨2⟩]).2 = 1 := by decide +kernel
  refine ⟨hc, hall, hcount, fun hok => ?_⟩
  rw [hall.ok_iff_count, hcount] at hok
  simp at hok

end ErrorTrail.Heap
