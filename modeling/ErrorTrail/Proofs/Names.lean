import ErrorTrail.Foreign
import ErrorTrail.Proofs.Acyclic

/-! # Names are never blank in a reachable heap whose kinds a program can make. -/

namespace ErrorTrail

namespace Kind

/-- The kinds a program can hold: the predefined ones and those that `custom` accepts. -/
def Made (k : Kind) : Prop :=
  k ∈ predefined ∨ ∃ name priority, custom name priority = .ok k

theorem custom_eq_ok {name : String} {priority : Int} {k : Kind}
    (hk : custom name priority = .ok k) : Text.isBlank name = false ∧ k = ⟨name, priority⟩ := by
  unfold custom Guard.notBlank at hk
  by_cases hblank : Text.isBlank name
  · simp [hblank] at hk
    cases hk
  · cases hreserved : checkReserved name priority predefined with
    | error v =>
        simp [hblank, hreserved] at hk
        cases hk
    | ok u =>
        simp only [hblank, Bool.false_eq_true, if_false, hreserved] at hk
        cases hk
        exact ⟨by simpa using hblank, rfl⟩

/-- A kind a program can make has a name that is not blank. -/
theorem Made.name_not_blank {k : Kind} (hk : k.Made) : Text.isBlank k.name = false := by
  rcases hk with hpredefined | ⟨name, priority, hcustom⟩
  · simp only [predefined, List.mem_cons, List.not_mem_nil, or_false] at hpredefined
    rcases hpredefined with rfl | rfl | rfl | rfl <;> decide
  · obtain ⟨hblank, rfl⟩ := custom_eq_ok hcustom
    exact hblank

end Kind

namespace Heap

/-! ## The names of nodes -/

/-- What names an error: its kind and its description. -/
def errorLabel (h : Heap) (e : ErrorId) : Kind × String :=
  ((h.error e).kind, (h.error e).description)

/-- What names a collection: its category and its header. -/
def collectionLabel (h : Heap) (c : CollectionId) : String × String :=
  ((h.collection c).category, (h.collection c).header)

section Frames

variable (h : Heap)

theorem errorLabel_of_errors_eq {h' : Heap} (heq : h'.errors = h.errors) :
    h'.errorLabel = h.errorLabel := by
  funext e
  simp only [errorLabel, error, heq]

theorem errorLabel_writeErrorCause (t : ErrorId) (cause : Option ErrorId) :
    (h.writeErrorCause t cause).errorLabel = h.errorLabel := by
  funext e
  simp only [errorLabel, error, writeErrorCause, Array.getElem?_modify]
  split
  · cases h.errors[e.index]? <;> rfl
  · rfl

/-- A change of one collection that keeps its category and header keeps every collection's
names. -/
theorem collectionLabel_modifyCollection (c : CollectionId) (f : CollectionNode → CollectionNode)
    (hf : ∀ n, (f n).category = n.category ∧ (f n).header = n.header) :
    (h.modifyCollection c f).collectionLabel = h.collectionLabel := by
  funext x
  simp only [collectionLabel, collection, modifyCollection, Array.getElem?_modify]
  split
  · cases h.collections[x.index]? <;> simp [hf]
  · rfl

theorem collectionLabel_pushAll (c : CollectionId) (errors : List ErrorId) :
    (h.pushAll c errors).collectionLabel = h.collectionLabel :=
  h.pushAll_keeps collectionLabel c
    (fun h' _ => h'.collectionLabel_modifyCollection c _ fun _ => ⟨rfl, rfl⟩) errors

theorem collectionLabel_writeCollectionCause (t : CollectionId) (cause : Option CollectionId) :
    (h.writeCollectionCause t cause).collectionLabel = h.collectionLabel :=
  h.collectionLabel_modifyCollection t _ fun _ => ⟨rfl, rfl⟩

/-- A live error after adding one is the new error, or an old one as it was. -/
theorem error_allocError_cases (node : ErrorNode) {e : ErrorId}
    (he : (h.allocError node).1.HasError e) :
    (h.allocError node).1.error e = node ∨
      (h.HasError e ∧ (h.allocError node).1.error e = h.error e) := by
  by_cases hold : h.HasError e
  · exact .inr ⟨hold, h.error_allocError_of_lt node hold⟩
  · have hindex : e.index = h.errors.size := by
      simp only [HasError, size_errors_allocError] at he hold
      omega
    have hnew : e = (h.allocError node).2 := by
      cases e
      cases hindex
      rfl
    rw [hnew, error_allocError_self]
    exact .inl rfl

/-- A live collection after adding one is the new collection, or an old one as it was. -/
theorem collection_allocCollection_cases (node : CollectionNode) {c : CollectionId}
    (hc : (h.allocCollection node).1.HasCollection c) :
    (h.allocCollection node).1.collection c = node ∨
      (h.HasCollection c ∧ (h.allocCollection node).1.collection c = h.collection c) := by
  by_cases hnew : c = ⟨h.collections.size⟩
  · rw [hnew, collection_allocCollection_fresh]
    exact .inl rfl
  · have hindex : c.index ≠ h.collections.size := CollectionId.index_ne_of_ne hnew
    refine .inr ⟨?_, collection_allocCollection_of_ne _ _ hnew⟩
    simp only [HasCollection, size_collections_allocCollection] at hc ⊢
    omega

end Frames

/-! ## The invariant -/

/-- Descriptions and headers are not blank, and a category is not blank unless it is the name of
a live error's kind. -/
structure Labelled (h : Heap) : Prop where
  description : ∀ e, h.HasError e → Text.isBlank (h.error e).description = false
  header : ∀ c, h.HasCollection c → Text.isBlank (h.collection c).header = false
  category : ∀ c, h.HasCollection c → Text.isBlank (h.collection c).category = false ∨
    ∃ e, h.HasError e ∧ (h.collection c).category = (h.error e).kind.name

section Invariant

variable {h h' : Heap}

theorem Labelled.empty (hasher : Fingerprint → UInt64) : Labelled { hasher := hasher } where
  description e he := by simp [HasError] at he
  header c hc := by simp [HasCollection] at hc
  category c hc := by simp [HasCollection] at hc

/-- A change that keeps which nodes are live and what names them keeps the invariant. -/
theorem Labelled.of_labels_eq (hl : h.Labelled) (herrors : h'.errors.size = h.errors.size)
    (herror : h'.errorLabel = h.errorLabel) (hcollections : h'.collections.size = h.collections.size)
    (hcollection : h'.collectionLabel = h.collectionLabel) : h'.Labelled := by
  have hdescription e : (h'.error e).description = (h.error e).description :=
    congrArg Prod.snd (congrFun herror e)
  have hkind e : (h'.error e).kind = (h.error e).kind := congrArg Prod.fst (congrFun herror e)
  have hcategory c : (h'.collection c).category = (h.collection c).category :=
    congrArg Prod.fst (congrFun hcollection c)
  have hheader c : (h'.collection c).header = (h.collection c).header :=
    congrArg Prod.snd (congrFun hcollection c)
  have hlive e : h'.HasError e ↔ h.HasError e := by simp only [HasError, herrors]
  refine ⟨fun e he => ?_, fun c hc => ?_, fun c hc => ?_⟩
  · rw [hdescription]
    exact hl.description e ((hlive e).mp he)
  · rw [hheader]
    exact hl.header c (by simpa [HasCollection, hcollections] using hc)
  · rw [hcategory]
    rcases hl.category c (by simpa [HasCollection, hcollections] using hc) with
      hnamed | ⟨e, he, hname⟩
    · exact .inl hnamed
    · exact .inr ⟨e, (hlive e).mpr he, by rw [hkind, hname]⟩

theorem Labelled.writeErrorCause (hl : h.Labelled) (t : ErrorId) (cause : Option ErrorId) :
    (h.writeErrorCause t cause).Labelled :=
  hl.of_labels_eq (by simp) (h.errorLabel_writeErrorCause t cause) rfl rfl

theorem Labelled.pushAll (hl : h.Labelled) (c : CollectionId) (errors : List ErrorId) :
    (h.pushAll c errors).Labelled :=
  hl.of_labels_eq (by simp) (errorLabel_of_errors_eq h (errors_pushAll h c errors)) (by simp)
    (h.collectionLabel_pushAll c errors)

theorem Labelled.writeCollectionCause (hl : h.Labelled) (t : CollectionId)
    (cause : Option CollectionId) : (h.writeCollectionCause t cause).Labelled :=
  hl.of_labels_eq rfl rfl (by simp) (h.collectionLabel_writeCollectionCause t cause)

/-- A new error whose description is not blank keeps the invariant. -/
theorem Labelled.allocError (hl : h.Labelled) (node : ErrorNode)
    (hdescription : Text.isBlank node.description = false) : (h.allocError node).1.Labelled := by
  have hlive : ∀ e, h.HasError e → (h.allocError node).1.HasError e := by
    intro e he
    simp only [HasError, size_errors_allocError] at he ⊢
    omega
  refine ⟨fun e he => ?_, fun c hc => hl.header c hc, fun c hc => ?_⟩
  · rcases h.error_allocError_cases node he with hnew | ⟨hold, heq⟩
    · rw [hnew]
      exact hdescription
    · rw [heq]
      exact hl.description e hold
  · -- old errors keep their kinds, so a category that names one still does
    rcases hl.category c hc with hnamed | ⟨e, he, hname⟩
    · exact .inl hnamed
    · exact .inr ⟨e, hlive e he,
        by rw [collection_allocError, h.error_allocError_of_lt node he, hname]⟩

/-- A new collection keeps the invariant when its header is not blank and its category is not
blank or names a live error's kind. -/
theorem Labelled.allocCollection (hl : h.Labelled) (category header : String)
    (hcategory : Text.isBlank category = false ∨ ∃ e, h.HasError e ∧ category = (h.error e).kind.name)
    (hheader : Text.isBlank header = false) :
    (h.allocCollection ⟨category, header, ErrorSet.empty h.hasher, none⟩).1.Labelled := by
  refine ⟨fun e he => hl.description e he, fun c hc => ?_, fun c hc => ?_⟩
  · rcases h.collection_allocCollection_cases _ hc with hnew | ⟨hold, heq⟩
    · rw [hnew]
      exact hheader
    · rw [heq]
      exact hl.header c hold
  · rcases h.collection_allocCollection_cases _ hc with hnew | ⟨hold, heq⟩
    · rw [hnew]
      exact hcategory
    · rw [heq]
      exact hl.category c hold

/-- Every operation keeps the invariant: each constructor checks the texts it names a node
with, except the collection made from one error, which takes the names of a live error. -/
theorem Labelled.apply (hl : h.Labelled) {op : Op} (hvalid : op.Valid h) :
    (h.apply op).Labelled := by
  cases op with
  | createError kind description details cause =>
      rw [Heap.apply, createError_eq]
      split
      · exact hl
      · next hblank =>
          have hdescription : Text.isBlank description = false := by simpa using hblank
          split
          · split
            · exact hl
            · exact hl.allocError _ hdescription
          · exact hl.allocError _ hdescription
  | setErrorCause target cause =>
      cases cause with
      | none => exact hl.writeErrorCause target none
      | some c =>
          rw [Heap.apply, Heap.setErrorCause]
          split
          · split
            · exact hl
            · exact hl.writeErrorCause target (some c)
          · exact hl
  | emptyCollection category header =>
      rw [Heap.apply, emptyCollection_eq]
      split
      · exact hl
      · next hcategory =>
          split
          · exact hl
          · next hheader =>
              exact hl.allocCollection category header (.inl (by simpa using hcategory))
                (by simpa using hheader)
  | createCollection category header errors =>
      rw [Heap.apply, createCollection_eq, emptyCollection_eq]
      split
      · exact hl
      · split
        · exact hl
        · next hcategory =>
            split
            · exact hl
            · next hheader =>
                obtain ⟨kept, -, hkept⟩ := exists_tryInsertErrors_eq_pushAll
                  (h := (h.allocCollection ⟨category, header, ErrorSet.empty h.hasher, none⟩).1)
                  (h.allocCollection ⟨category, header, ErrorSet.empty h.hasher, none⟩).2 errors
                show Labelled (Prod.fst (Heap.tryInsertErrors _ _ errors))
                rw [hkept]
                exact (hl.allocCollection category header (.inl (by simpa using hcategory))
                  (by simpa using hheader)).pushAll _ kept
  | singleCollection e =>
      have he : h.HasError e := hvalid
      rw [Heap.apply, singleCollection_fst]
      exact (hl.allocCollection _ _ (.inr ⟨e, he, rfl⟩) (hl.description e he)).pushAll _ [e]
  | insertError c e =>
      rw [Heap.apply, Heap.insertError]
      split
      · exact hl
      · exact hl.pushAll c [e]
  | tryInsertError c e =>
      rw [Heap.apply]
      rcases tryInsertError_fst (h := h) c e with hkeep | hpush
      · rw [hkeep]
        exact hl
      · rw [hpush]
        exact hl.pushAll c [e]
  | insertErrors c errors =>
      rw [Heap.apply, Heap.insertErrors]
      split
      · exact hl
      · exact hl.pushAll c errors
  | tryInsertErrors c errors =>
      obtain ⟨kept, -, hkept⟩ := exists_tryInsertErrors_eq_pushAll (h := h) c errors
      rw [Heap.apply, hkept]
      exact hl.pushAll c kept
  | setCollectionCause target cause =>
      cases cause with
      | none => exact hl.writeCollectionCause target none
      | some c =>
          rw [Heap.apply, Heap.setCollectionCause]
          split
          · exact hl
          · split
            · split
              · exact hl
              · exact hl.writeCollectionCause target (some c)
            · exact hl

theorem Reachable.labelled (hr : Reachable h) : h.Labelled := by
  induction hr with
  | empty hasher => exact Labelled.empty hasher
  | step op _ hvalid ih => exact ih.apply hvalid
  | rekey hasher _ ih => exact ih.of_labels_eq rfl rfl rfl rfl

end Invariant

/-! ## Every reachable heap -/

/-- Every live error's kind name and description, and every live collection's category and
header, is not blank. -/
structure NamesNotBlank (h : Heap) : Prop where
  kindName : ∀ e, h.HasError e → Text.isBlank (h.error e).kind.name = false
  description : ∀ e, h.HasError e → Text.isBlank (h.error e).description = false
  category : ∀ c, h.HasCollection c → Text.isBlank (h.collection c).category = false
  header : ∀ c, h.HasCollection c → Text.isBlank (h.collection c).header = false

theorem Labelled.toNamesNotBlank {h : Heap} (hl : h.Labelled)
    (hkinds : ∀ e, h.HasError e → (h.error e).kind.Made) : h.NamesNotBlank where
  kindName e he := (hkinds e he).name_not_blank
  description := hl.description
  category c hc := by
    rcases hl.category c hc with hnamed | ⟨e, he, hname⟩
    · exact hnamed
    · rw [hname]
      exact (hkinds e he).name_not_blank
  header := hl.header

/-- The description an error made from a foreign error takes when none is given is not blank,
so in a heap whose chains end such an error is always made. -/
theorem Linked.createUnexpected_none {h : Heap} (hl : h.Linked) (x : Foreign)
    (cause : Option ErrorId) :
    ∃ description, Text.isBlank description = false ∧
      h.createUnexpected x none cause =
        .ok (h.allocError ⟨Kind.unexpected, description, some x.report, cause⟩) := by
  have hfallback : Text.isBlank "unexpected error" = false := by decide
  by_cases hsummary : Text.isBlank x.summary
  · refine ⟨"unexpected error", hfallback, ?_⟩
    rw [createUnexpected, hl.createError_eq]
    simp [hsummary, hfallback]
  · refine ⟨x.summary, by simpa using hsummary, ?_⟩
    rw [createUnexpected, hl.createError_eq]
    simp [hsummary]

/-- In every reachable heap whose errors have kinds a program can make, no name is blank: not
the name of a kind, not the description of an error, and not the category or the header of a
collection, also of one made from a single error. An error made from a foreign error without a
description takes one that is not blank. -/
theorem Reachable.namesNotBlank {h : Heap} (hr : Reachable h)
    (hkinds : ∀ e, h.HasError e → (h.error e).kind.Made) :
    (∀ k : Kind, k.Made → Text.isBlank k.name = false) ∧ h.NamesNotBlank ∧
      ∀ (x : Foreign) (cause : Option ErrorId), ∃ description, Text.isBlank description = false ∧
        h.createUnexpected x none cause =
          .ok (h.allocError ⟨Kind.unexpected, description, some x.report, cause⟩) :=
  ⟨fun _ hk => hk.name_not_blank, hr.labelled.toNamesNotBlank hkinds,
    hr.linked.createUnexpected_none⟩

/-- An error of a custom kind, made into a collection of its own: the collection's category is
the kind's name, which `custom` checked. -/
theorem namesNotBlank_of_single_custom :
    Reachable ((({} : Heap).apply (.createError ⟨"Timeout", 10⟩ "request timed out" none none)).apply
      (.singleCollection ⟨0⟩)) ∧
    let h := (({} : Heap).apply (.createError ⟨"Timeout", 10⟩ "request timed out" none none)).apply
      (.singleCollection ⟨0⟩)
    (∀ e, h.HasError e → (h.error e).kind.Made) ∧
    (∀ k : Kind, k.Made → Text.isBlank k.name = false) ∧ h.NamesNotBlank ∧
      ∀ (x : Foreign) (cause : Option ErrorId), ∃ description, Text.isBlank description = false ∧
        h.createUnexpected x none cause =
          .ok (h.allocError ⟨Kind.unexpected, description, some x.report, cause⟩) := by
  have hr : Reachable ((({} : Heap).apply
      (.createError ⟨"Timeout", 10⟩ "request timed out" none none)).apply (.singleCollection ⟨0⟩)) := by
    refine .step _ (.step _ (.empty hash) ?_) ?_
    · simp [Op.Valid]
    · show _ < _
      decide
  have hkinds : ∀ e, Heap.HasError ((({} : Heap).apply
      (.createError ⟨"Timeout", 10⟩ "request timed out" none none)).apply (.singleCollection ⟨0⟩)) e →
      (Heap.error ((({} : Heap).apply
        (.createError ⟨"Timeout", 10⟩ "request timed out" none none)).apply
        (.singleCollection ⟨0⟩)) e).kind.Made := by
    rintro ⟨index⟩ he
    -- the heap holds one error
    have hindex : index = 0 := by
      simp only [HasError] at he
      revert index
      decide
    subst hindex
    exact .inr ⟨"Timeout", 10, by decide⟩
  exact ⟨hr, hkinds, Reachable.namesNotBlank hr hkinds⟩

end Heap

end ErrorTrail
