import ErrorTrail.Proofs.Equality

/-! # The most severe error: the first of highest priority, in a list of kinds, in a chain,
and in the chains of a collection laid end to end. -/

namespace ErrorTrail

namespace Kind

variable {α : Type} (priorityOf : α → Int)

/-- The item the scan keeps when `next` follows `best`: `next` only when it ranks strictly
higher. -/
def higher (best next : α) : α :=
  if priorityOf best < priorityOf next then next else best

theorem higher_assoc (a b c : α) :
    higher priorityOf (higher priorityOf a b) c = higher priorityOf a (higher priorityOf b c) := by
  unfold higher
  by_cases hab : priorityOf a < priorityOf b <;> by_cases hbc : priorityOf b < priorityOf c <;>
    by_cases hac : priorityOf a < priorityOf c <;> simp [hab, hbc, hac] <;> omega

instance : Std.Associative (higher priorityOf) := ⟨higher_assoc priorityOf⟩

/-- The first item of highest priority, if the list has an item. -/
def firstHighest? : List α → Option α
  | [] => none
  | first :: rest => some (firstHighest priorityOf first rest)

/-- `x` stands at position `i` of `l`, no item of `l` ranks above it, and every item before
position `i` ranks strictly below it. -/
structure FirstHighestAt (l : List α) (i : Nat) (x : α) : Prop where
  value_at : l[i]? = some x
  highest : ∀ y ∈ l, priorityOf y ≤ priorityOf x
  earliest : ∀ j, j < i → ∀ y, l[j]? = some y → priorityOf y < priorityOf x

variable {priorityOf}

theorem firstHighest_cons (first x : α) (rest : List α) :
    firstHighest priorityOf first (x :: rest) =
      firstHighest priorityOf (higher priorityOf first x) rest := rfl

theorem firstHighest_append (first : α) (l l' : List α) :
    firstHighest priorityOf first (l ++ l') =
      firstHighest priorityOf (firstHighest priorityOf first l) l' :=
  List.foldl_append

/-- Scanning from `first` over a non-empty rest weighs `first` against the best of the rest. -/
theorem firstHighest_cons_eq_higher (first x : α) (rest : List α) :
    firstHighest priorityOf first (x :: rest) =
      higher priorityOf first (firstHighest priorityOf x rest) := by
  show List.foldl (higher priorityOf) (higher priorityOf first x) rest =
    higher priorityOf first (List.foldl (higher priorityOf) x rest)
  exact List.foldl_assoc

theorem FirstHighestAt.unique {l : List α} {i j : Nat} {x y : α}
    (hx : FirstHighestAt priorityOf l i x) (hy : FirstHighestAt priorityOf l j y) :
    i = j ∧ x = y := by
  have hyx : priorityOf y ≤ priorityOf x := hx.highest y (List.mem_of_getElem? hy.value_at)
  have hxy : priorityOf x ≤ priorityOf y := hy.highest x (List.mem_of_getElem? hx.value_at)
  rcases Nat.lt_trichotomy i j with hij | rfl | hij
  · have hlt := hy.earliest i hij x hx.value_at
    omega
  · exact ⟨rfl, Option.some.inj (hx.value_at.symm.trans hy.value_at)⟩
  · have hlt := hx.earliest j hij y hy.value_at
    omega

/-- The scan finds the first item of highest priority. -/
theorem firstHighestAt_firstHighest (first : α) (rest : List α) :
    ∃ i, FirstHighestAt priorityOf (first :: rest) i (firstHighest priorityOf first rest) := by
  induction rest generalizing first with
  | nil =>
      refine ⟨0, rfl, fun y hy => ?_, by simp⟩
      rw [List.mem_singleton.mp hy]
      exact Int.le_refl _
  | cons x rest ih =>
      obtain ⟨i, hbest⟩ := ih x
      rw [firstHighest_cons_eq_higher]
      by_cases hlt : priorityOf first < priorityOf (firstHighest priorityOf x rest)
      · -- the best of the rest wins, one position further on
        rw [higher, if_pos hlt]
        refine ⟨i + 1, hbest.value_at, ?_, ?_⟩
        · intro y hy
          rcases List.mem_cons.mp hy with rfl | hy
          · exact Int.le_of_lt hlt
          · exact hbest.highest y hy
        · intro j hj y hy
          cases j with
          | zero =>
              cases hy
              exact hlt
          | succ j => exact hbest.earliest j (by omega) y hy
      · -- `first` ranks no lower than anything after it
        rw [higher, if_neg hlt]
        refine ⟨0, rfl, ?_, fun j hj => absurd hj (Nat.not_lt_zero j)⟩
        intro y hy
        rcases List.mem_cons.mp hy with rfl | hy
        · exact Int.le_refl _
        · have hle := hbest.highest y hy
          omega

theorem firstHighest?_eq_none_iff {l : List α} : firstHighest? priorityOf l = none ↔ l = [] := by
  cases l <;> simp [firstHighest?]

theorem firstHighest?_eq_some_iff {l : List α} {x : α} :
    firstHighest? priorityOf l = some x ↔ ∃ i, FirstHighestAt priorityOf l i x := by
  cases l with
  | nil =>
      simp only [firstHighest?, reduceCtorEq, false_iff, not_exists]
      intro i hat
      simpa using hat.value_at
  | cons first rest =>
      obtain ⟨i, hfirst⟩ : ∃ i, FirstHighestAt priorityOf (first :: rest) i
          (firstHighest priorityOf first rest) := firstHighestAt_firstHighest first rest
      constructor
      · intro hx
        cases hx
        exact ⟨i, hfirst⟩
      · rintro ⟨j, hx⟩
        rw [firstHighest?, (hfirst.unique hx).2]

/-- Scanning images under `f` is scanning the items, when `f` keeps priorities. -/
theorem firstHighest_map {β : Type} {q : β → Int} (f : α → β) (hq : ∀ y, q (f y) = priorityOf y)
    (first : α) (rest : List α) :
    firstHighest q (f first) (rest.map f) = f (firstHighest priorityOf first rest) := by
  induction rest generalizing first with
  | nil => rfl
  | cons x rest ih =>
      have hstep : higher q (f first) (f x) = f (higher priorityOf first x) := by
        unfold higher
        rw [hq, hq]
        split <;> rfl
      rw [List.map_cons, firstHighest_cons, hstep, ih, firstHighest_cons]

theorem firstHighest?_map {β : Type} {q : β → Int} (f : α → β) (hq : ∀ y, q (f y) = priorityOf y)
    (l : List α) : firstHighest? q (l.map f) = (firstHighest? priorityOf l).map f := by
  cases l with
  | nil => rfl
  | cons first rest => simp [firstHighest?, firstHighest_map f hq]

theorem highest?_eq (kinds : List Kind) : highest? kinds = firstHighest? Kind.priority kinds := by
  cases kinds <;> rfl

/-- A choice among no kinds is refused, and nothing else is. -/
theorem highest_eq_error_iff (kinds : List Kind) (v : Violation) :
    highest kinds = .error v ↔ kinds = [] ∧ v = .invalidArgument "kinds" .empty := by
  cases kinds with
  | nil => simp [highest, highest?, eq_comm]
  | cons k rest => simp [highest, highest?]

/-- A choice among kinds gives the first kind of highest priority, and no other. -/
theorem highest_eq_ok_iff (kinds : List Kind) (k : Kind) :
    highest kinds = .ok k ↔ ∃ i, FirstHighestAt Kind.priority kinds i k := by
  rw [← firstHighest?_eq_some_iff, ← highest?_eq, highest]
  split <;> simp_all

end Kind

namespace Heap

/-- The chains of the errors of a collection chain, nearest collection and nearest error first,
laid end to end. -/
def allChains (h : Heap) (c : CollectionId) : List ErrorId :=
  (h.allErrors c).flatMap h.errorChain

theorem mostSevere_eq (h : Heap) (e : ErrorId) :
    h.mostSevere e = Kind.firstHighest h.priority e (h.errorChain e).tail := by
  unfold mostSevere
  obtain ⟨rest, hrest⟩ : ∃ rest, h.errorChain e = e :: rest := ⟨_, errorChain_eq_cons h e⟩
  rw [hrest]
  rfl

/-- The most severe error of a chain is its first error of highest priority, and no other. -/
theorem mostSevere_eq_iff (h : Heap) (e x : ErrorId) :
    h.mostSevere e = x ↔ ∃ i, Kind.FirstHighestAt h.priority (h.errorChain e) i x := by
  obtain ⟨i, hat⟩ :
      ∃ i, Kind.FirstHighestAt h.priority (h.errorChain e) i (h.mostSevere e) := by
    rw [mostSevere_eq, errorChain_eq_cons]
    exact Kind.firstHighestAt_firstHighest e _
  constructor
  · rintro rfl
    exact ⟨i, hat⟩
  · rintro ⟨j, hx⟩
    exact (hat.unique hx).2

/-- Of equal priorities the earliest is picked, for kinds and for the errors of a chain alike:
a choice among kinds is refused exactly when there are none and otherwise gives the first kind
of highest priority, and the most severe error of every chain is its first error of highest
priority. -/
theorem tiesKeepEarliest :
    (∀ kinds v, Kind.highest kinds = .error v ↔
      kinds = [] ∧ v = .invalidArgument "kinds" .empty) ∧
    (∀ kinds k, Kind.highest kinds = .ok k ↔ ∃ i, Kind.FirstHighestAt Kind.priority kinds i k) ∧
    (∀ (h : Heap) e x,
      h.mostSevere e = x ↔ ∃ i, Kind.FirstHighestAt h.priority (h.errorChain e) i x) :=
  ⟨Kind.highest_eq_error_iff, Kind.highest_eq_ok_iff, mostSevere_eq_iff⟩

example : Kind.highest [⟨"First", 7⟩, ⟨"Second", 7⟩, Kind.failure] = .ok ⟨"First", 7⟩ := rfl

/-- Once the scan across errors holds an error `w`, it goes on as the scan of their chains laid
end to end, from `w`. Any step that keeps the higher of what it holds and the error's own most
severe link will do. -/
theorem foldl_eq_firstHighest_flatMap {h : Heap} {pick : Option ErrorId → ErrorId → Option ErrorId}
    (hpick : ∀ w e, pick (some w) e = some (Kind.higher h.priority w (h.mostSevere e)))
    (l : List ErrorId) (w : ErrorId) :
    l.foldl pick (some w) = some (Kind.firstHighest h.priority w (l.flatMap h.errorChain)) := by
  induction l generalizing w with
  | nil => rfl
  | cons e rest ih =>
      have hchain : Kind.firstHighest h.priority w (h.errorChain e) =
          Kind.higher h.priority w (h.mostSevere e) := by
        rw [mostSevere_eq, ← Kind.firstHighest_cons_eq_higher, ← errorChain_eq_cons]
      rw [List.foldl_cons, hpick, ih, List.flatMap_cons, Kind.firstHighest_append, hchain]

/-- The two-level search of `mostSevereDeep` is the one-level search over all chains. -/
theorem mostSevereDeep_eq (h : Heap) (c : CollectionId) :
    h.mostSevereDeep c = Kind.firstHighest? h.priority (h.allChains c) := by
  unfold mostSevereDeep allChains
  cases h.allErrors c with
  | nil => rfl
  | cons e rest =>
      rw [List.foldl_cons]
      -- the first error starts the scan with its own most severe link
      show List.foldl _ (some (h.mostSevere e)) rest = _
      rw [foldl_eq_firstHighest_flatMap (fun _ _ => (apply_ite some _ _ _).symm)]
      obtain ⟨tail, htail⟩ : ∃ tail, h.errorChain e = e :: tail := ⟨_, errorChain_eq_cons h e⟩
      rw [List.flatMap_cons, htail, mostSevere_eq, htail, List.cons_append, Kind.firstHighest?,
        Kind.firstHighest_append, List.tail_cons]

theorem highestKindDeep_eq (h : Heap) (c : CollectionId) :
    h.highestKindDeep c = (h.mostSevereDeep c).map fun e => (h.error e).kind := by
  rw [highestKindDeep, Kind.highest?_eq, mostSevereDeep_eq]
  exact Kind.firstHighest?_map (fun e => (h.error e).kind)
    (fun e => (rfl : (h.error e).kind.priority = h.priority e)) (h.allChains c)

theorem allChains_eq_nil_iff (h : Heap) (c : CollectionId) :
    h.allChains c = [] ↔ h.allErrors c = [] := by
  rw [allChains, List.flatMap_eq_nil_iff]
  constructor
  · intro hnil
    refine List.eq_nil_iff_forall_not_mem.mpr fun e he => ?_
    have hcons := errorChain_eq_cons h e
    rw [hnil e he] at hcons
    cases hcons
  · intro hnil e he
    simp [hnil] at he

theorem allErrors_eq_nil_iff (h : Heap) (c : CollectionId) :
    h.allErrors c = [] ↔ h.containsErrorsDeep c = false := by
  simp [allErrors, containsErrorsDeep, containsErrors, List.flatMap_eq_nil_iff]

/-- What the severity queries answer for a collection: nothing exactly when the chains of its
errors are empty, which is when no collection of its chain holds an error; otherwise the first
error of highest priority in those chains laid end to end, and the kind of that error. -/
structure DeepSeverity (h : Heap) (c : CollectionId) : Prop where
  mostSevereDeep_eq_none_iff : h.mostSevereDeep c = none ↔ h.allChains c = []
  allChains_eq_nil_iff : h.allChains c = [] ↔ h.allErrors c = []
  allErrors_eq_nil_iff : h.allErrors c = [] ↔ h.containsErrorsDeep c = false
  mostSevereDeep_eq_some_iff : ∀ x, h.mostSevereDeep c = some x ↔
    ∃ i, Kind.FirstHighestAt h.priority (h.allChains c) i x
  highestKindDeep_eq : h.highestKindDeep c = (h.mostSevereDeep c).map fun e => (h.error e).kind

/-- In every heap, the most severe error of a collection is the first error of highest priority
in the chains of its errors laid end to end, and nothing exactly when the collection chain holds
no error; the headline kind is the kind of that same error. -/
theorem deepSeverity (h : Heap) (c : CollectionId) : h.DeepSeverity c where
  mostSevereDeep_eq_none_iff := by rw [mostSevereDeep_eq, Kind.firstHighest?_eq_none_iff]
  allChains_eq_nil_iff := h.allChains_eq_nil_iff c
  allErrors_eq_nil_iff := h.allErrors_eq_nil_iff c
  mostSevereDeep_eq_some_iff x := by rw [mostSevereDeep_eq, Kind.firstHighest?_eq_some_iff]
  highestKindDeep_eq := h.highestKindDeep_eq c

-- Two failures tie, one held by the collection and one by its cause: the nearer one wins.
example :
    let h := (((({ hasher := fun _ => 0 } : Heap).apply
        (.createError Kind.failure "deep" none none)
      |>.apply (.createError Kind.failure "local" none none))
      |>.apply (.createCollection "db" "query failed" [⟨0⟩]))
      |>.apply (.createCollection "api" "request failed" [⟨1⟩]))
      |>.apply (.setCollectionCause ⟨1⟩ (some ⟨0⟩))
    h.mostSevereDeep ⟨1⟩ = some ⟨1⟩ ∧ h.highestKindDeep ⟨1⟩ = some Kind.failure := by
  decide +kernel

end Heap

end ErrorTrail
