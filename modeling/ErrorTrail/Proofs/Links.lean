import Mathlib.Data.List.Nodup
import ErrorTrail.Heap.Chain

/-! # Chains of links given by `next : α → Option α`: fuelled walks, chains without repeats,
and re-pointing one node. -/

namespace ErrorTrail.Links

variable {α : Type} (next : α → Option α)

/-- `Ends next a l`: following `next` from `a` visits the nodes of `l` in order and stops at the
last one, which has no next node. -/
inductive Ends : α → List α → Prop
  | last {a : α} : next a = none → Ends a [a]
  | link {a b : α} {l : List α} : next a = some b → Ends b l → Ends a (a :: l)

/-- Every chain ends. -/
def Acyclic : Prop :=
  ∀ a, ∃ l, Ends next a l

/-- The chain of `a`, if it ends within `fuel` nodes. -/
def walk : Nat → α → Option (List α)
  | 0, _ => none
  | fuel + 1, a =>
    match next a with
    | none => some [a]
    | some b => (walk fuel b).map (a :: ·)

variable {next}

/-! ## Chains that end -/

theorem Ends.eq_cons {a : α} {l : List α} (h : Ends next a l) : l = a :: l.tail := by
  cases h <;> rfl

/-- A node has one chain. -/
theorem Ends.unique {a : α} {l₁ l₂ : List α} (h₁ : Ends next a l₁) (h₂ : Ends next a l₂) :
    l₁ = l₂ := by
  induction h₁ generalizing l₂ with
  | last hnone =>
      cases h₂ with
      | last _ => rfl
      | link hsome _ => simp [hnone] at hsome
  | link hsome _ ih =>
      cases h₂ with
      | last hnone => simp [hnone] at hsome
      | link hsome' hrest =>
          rw [hsome] at hsome'
          cases hsome'
          rw [ih hrest]

/-- From any node of a chain, the chain goes on as the rest of the chain. -/
theorem Ends.suffix_of_mem {a x : α} {l : List α} (h : Ends next a l) (hx : x ∈ l) :
    ∃ s, Ends next x s ∧ s <:+ l := by
  induction h with
  | @last a hnone =>
      rw [List.mem_singleton.mp hx]
      exact ⟨[a], .last hnone, List.suffix_refl _⟩
  | @link a b l hsome hrest ih =>
      rcases List.mem_cons.mp hx with rfl | hx
      · exact ⟨x :: l, .link hsome hrest, List.suffix_refl _⟩
      · obtain ⟨s, hs, hsuffix⟩ := ih hx
        exact ⟨s, hs, hsuffix.trans (List.suffix_cons a l)⟩

/-- A chain that ends meets no node twice: a node met again would start a second, shorter chain
of itself. -/
theorem Ends.nodup {a : α} {l : List α} (h : Ends next a l) : l.Nodup := by
  induction h with
  | last _ => exact List.nodup_singleton _
  | @link a b l hsome hrest ih =>
      refine List.nodup_cons.mpr ⟨?_, ih⟩
      intro ha
      obtain ⟨s, hs, hsuffix⟩ := hrest.suffix_of_mem ha
      have hsame : a :: l = s := (Ends.link hsome hrest).unique hs
      have hlength := hsuffix.length_le
      rw [← hsame, List.length_cons] at hlength
      omega

/-- Every node after the first is the next node of some node. -/
theorem Ends.next_of_mem_tail {a x : α} {l : List α} (h : Ends next a l) (hx : x ∈ l.tail) :
    ∃ y, next y = some x := by
  induction h with
  | last _ => simp at hx
  | @link a b l hsome hrest ih =>
      rw [List.tail_cons, hrest.eq_cons] at hx
      rcases List.mem_cons.mp hx with rfl | hx
      · exact ⟨a, hsome⟩
      · exact ih (by rwa [hrest.eq_cons])

/-- A chain is one of another link function that agrees on its nodes. -/
theorem Ends.congr {next' : α → Option α} {a : α} {l : List α} (h : Ends next a l)
    (hagree : ∀ x ∈ l, next' x = next x) : Ends next' a l := by
  induction h with
  | last hnone => exact .last ((hagree _ (List.mem_singleton_self _)).trans hnone)
  | @link a b l hsome _ ih =>
      refine .link ((hagree a List.mem_cons_self).trans hsome) (ih ?_)
      intro x hx
      exact hagree x (List.mem_cons_of_mem a hx)

/-- A chain whose nodes are numbered below `n` by an injective numbering has at most `n` nodes. -/
theorem Ends.length_le {a : α} {l : List α} {f : α → Nat} {n : Nat} (h : Ends next a l)
    (hf : Function.Injective f) (hbound : ∀ x ∈ l, f x < n) : l.length ≤ n := by
  have hsub : l.map f ⊆ List.range n := by
    intro i hi
    obtain ⟨x, hx, rfl⟩ := List.mem_map.mp hi
    exact List.mem_range.mpr (hbound x hx)
  have hlength := (h.nodup.map hf).length_le_of_subset hsub
  rwa [List.length_map, List.length_range] at hlength

/-! ## Fuelled walks -/

theorem walk_of_ends {a : α} {l : List α} (h : Ends next a l) :
    ∀ {fuel : Nat}, l.length ≤ fuel → walk next fuel a = some l := by
  induction h with
  | last hnone =>
      intro fuel hfuel
      obtain ⟨fuel, rfl⟩ : ∃ k, fuel = k + 1 := ⟨fuel - 1, by simp at hfuel; omega⟩
      simp [walk, hnone]
  | @link a b l hsome _ ih =>
      intro fuel hfuel
      obtain ⟨fuel, rfl⟩ : ∃ k, fuel = k + 1 := ⟨fuel - 1, by simp at hfuel; omega⟩
      simp only [List.length_cons, Nat.add_le_add_iff_right] at hfuel
      simp [walk, hsome, ih hfuel]

theorem ends_of_walk {a : α} {l : List α} :
    ∀ {fuel : Nat}, walk next fuel a = some l → Ends next a l ∧ l.length ≤ fuel
  | 0, h => by simp [walk] at h
  | fuel + 1, h => by
      simp only [walk] at h
      split at h
      · next hnone =>
          cases h
          exact ⟨.last hnone, by simp⟩
      · next b hsome =>
          obtain ⟨rest, hrest, rfl⟩ := Option.map_eq_some_iff.mp h
          obtain ⟨hends, hlength⟩ := ends_of_walk hrest
          exact ⟨.link hsome hends, by simpa using hlength⟩

/-- A walk with `fuel` steps finds exactly the chains of at most `fuel` nodes. -/
theorem walk_eq_some_iff {fuel : Nat} {a : α} {l : List α} :
    walk next fuel a = some l ↔ Ends next a l ∧ l.length ≤ fuel :=
  ⟨ends_of_walk, fun ⟨hends, hlength⟩ => walk_of_ends hends hlength⟩

/-! ## Pointing one node somewhere new -/

/-- When only the next node of `t` changes, to a node whose chain avoids `t`, the chain of `t`
becomes `t` followed by that chain: off `t` no link changes, so the chain is read as before. -/
theorem Ends.redirect {next' : α → Option α} {t c : α} {l : List α} (h : Ends next c l)
    (hnot : t ∉ l) (hframe : ∀ a, a ≠ t → next' a = next a) (ht : next' t = some c) :
    Ends next' t (t :: l) :=
  .link ht (h.congr fun x hx => hframe x fun hxt => hnot (hxt ▸ hx))

/-- Changing the next node of `t` alone, to nothing or to a node whose chain ends without
meeting `t`, keeps every chain finite. -/
theorem Acyclic.redirect {next' : α → Option α} {t : α} (h : Acyclic next)
    (hframe : ∀ a, a ≠ t → next' a = next a)
    (htarget : ∀ c, next' t = some c → ∃ l, Ends next c l ∧ t ∉ l) : Acyclic next' := by
  -- the new chain of `t`: the old chain of its new target, which avoids `t`
  have hnew : ∃ l, Ends next' t l := by
    cases hc : next' t with
    | none => exact ⟨[t], .last hc⟩
    | some c =>
        obtain ⟨l, hl, hnot⟩ := htarget c hc
        exact ⟨t :: l, hl.redirect hnot hframe hc⟩
  -- every other chain runs as before until it reaches `t`, if it does
  intro a
  obtain ⟨l, hl⟩ := h a
  induction hl with
  | @last a hnone =>
      by_cases hat : a = t
      · exact hat ▸ hnew
      · exact ⟨[a], .last ((hframe a hat).trans hnone)⟩
  | @link a b l hsome _ ih =>
      by_cases hat : a = t
      · exact hat ▸ hnew
      · obtain ⟨l', hl'⟩ := ih
        exact ⟨a :: l', .link ((hframe a hat).trans hsome) hl'⟩

/-! ## Links that point at live nodes -/

/-- Every link points at a node of `live`, and every chain ends. -/
structure Sound (next : α → Option α) (live : α → Prop) : Prop where
  next_live : ∀ a b, next a = some b → live b
  acyclic : Acyclic next

variable {live : α → Prop}

theorem Sound.live_of_mem_tail (hs : Sound next live) {a x : α} {l : List α} (h : Ends next a l)
    (hx : x ∈ l.tail) : live x := by
  obtain ⟨y, hy⟩ := h.next_of_mem_tail hx
  exact hs.next_live y x hy

/-- The chain of a live node holds live nodes only, so it avoids every node that is not live. -/
theorem Sound.not_mem_of_not_live (hs : Sound next live) {c t : α} {l : List α}
    (h : Ends next c l) (hc : live c) (ht : ¬ live t) : t ∉ l := by
  intro htl
  rw [h.eq_cons] at htl
  rcases List.mem_cons.mp htl with rfl | htail
  · exact ht hc
  · exact ht (hs.live_of_mem_tail h (by rwa [h.eq_cons]))

theorem Sound.live_of_mem (hs : Sound next live) {a x : α} {l : List α} (h : Ends next a l)
    (ha : live a) (hx : x ∈ l) : live x := by
  rw [h.eq_cons] at hx
  rcases List.mem_cons.mp hx with rfl | htail
  · exact ha
  · exact hs.live_of_mem_tail h (by rwa [h.eq_cons])

/-- When the live nodes are numbered injectively below `n` and a node that is not live has no
link, a walk of `n + 1` steps finds every chain. -/
theorem Sound.walk_eq_some {f : α → Nat} {n : Nat} (hs : Sound next live)
    (hf : Function.Injective f) (hbound : ∀ x, live x → f x < n)
    (hdead : ∀ x, ¬ live x → next x = none) {a : α} {l : List α} (h : Ends next a l) :
    walk next (n + 1) a = some l := by
  apply walk_of_ends h
  by_cases ha : live a
  · have hlength := h.length_le hf fun x hx => hbound x (hs.live_of_mem h ha hx)
    omega
  · rw [h.unique (.last (hdead a ha))]
    simp

/-- Changing the link of `t` alone, to nothing or to a live node whose chain avoids `t`, keeps
the links sound, also when more nodes become live. -/
theorem Sound.update {next' : α → Option α} {live' : α → Prop} {t : α} (hs : Sound next live)
    (hlive : ∀ a, live a → live' a) (hframe : ∀ a, a ≠ t → next' a = next a)
    (htarget : ∀ c, next' t = some c → live' c ∧ ∃ l, Ends next c l ∧ t ∉ l) :
    Sound next' live' where
  next_live := by
    intro a b hab
    by_cases hat : a = t
    · subst hat
      exact (htarget b hab).1
    · rw [hframe a hat] at hab
      exact hlive b (hs.next_live a b hab)
  acyclic := hs.acyclic.redirect hframe fun c hc => (htarget c hc).2

end ErrorTrail.Links
