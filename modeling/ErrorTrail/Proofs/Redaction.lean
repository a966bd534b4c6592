import ErrorTrail.Outcome
import ErrorTrail.Proofs.Reachable

/-! # Rendering with details hidden reads no details: it is the rendering of the heap whose
errors have none. -/

namespace ErrorTrail

namespace Heap

/-- The heap with the details of every error removed. -/
def eraseDetails (h : Heap) : Heap :=
  { h with errors := h.errors.map fun n => { n with details := none } }

variable (h : Heap)

@[simp] theorem collections_eraseDetails : h.eraseDetails.collections = h.collections := rfl

@[simp] theorem size_errors_eraseDetails : h.eraseDetails.errors.size = h.errors.size := by
  simp [eraseDetails]

theorem error_eraseDetails (e : ErrorId) :
    h.eraseDetails.error e = { h.error e with details := none } := by
  simp only [eraseDetails, error, Array.getElem?_map]
  cases h.errors[e.index]? <;> rfl

theorem errorChain_eraseDetails : h.eraseDetails.errorChain = h.errorChain := by
  have hcause : h.eraseDetails.errorCause = h.errorCause := by
    funext e
    simp only [errorCause, error_eraseDetails]
  exact errorChain_of_causes_eq hcause h.size_errors_eraseDetails

theorem collectionChain_eraseDetails : h.eraseDetails.collectionChain = h.collectionChain :=
  collectionChain_of_causes_eq rfl rfl

/-! ## Each renderer -/

/-- A link shown without details is the link of the erased heap, whatever the style's flag. -/
theorem renderErrorLink_withDetails_false (s : Style) :
    h.renderErrorLink (s.withDetails false) = h.eraseDetails.renderErrorLink s := by
  funext e
  cases hshown : s.includeDetails <;> simp [renderErrorLink, Style.withDetails, hshown,
    error_eraseDetails]

theorem renderError_withDetails_false (s : Style) :
    h.renderError (s.withDetails false) = h.eraseDetails.renderError s := by
  funext e
  simp only [renderError, renderErrorLink_withDetails_false, errorChain_eraseDetails]
  rfl

theorem renderCollectionLink_withDetails_false (s : Style) :
    h.renderCollectionLink (s.withDetails false) = h.eraseDetails.renderCollectionLink s := by
  funext c
  simp only [renderCollectionLink, renderError_withDetails_false]
  rfl

theorem renderCollection_withDetails_false (s : Style) :
    h.renderCollection (s.withDetails false) = h.eraseDetails.renderCollection s := by
  funext c
  simp only [renderCollection, renderCollectionLink_withDetails_false,
    collectionChain_eraseDetails]
  rfl

end Heap

theorem Outcome.render_withDetails_false {α : Type} (o : Outcome α) (text : α → String)
    (h : Heap) (s : Style) :
    o.render text h (s.withDetails false) = o.render text h.eraseDetails s := by
  cases o with
  | value v => rfl
  | failed c => exact congrFun (h.renderCollection_withDetails_false s) c

theorem Style.withDetails_false_of_hidden {s : Style} (hhidden : s.includeDetails = false) :
    s.withDetails false = s := by
  cases s
  simp_all [Style.withDetails]

namespace Heap

/-! ## Heaps that differ in details only -/

section TwoHeaps

variable {h h' : Heap} (herase : h'.eraseDetails = h.eraseDetails) {s : Style}
  (hhidden : s.includeDetails = false)
include herase hhidden

theorem renderError_eq_of_eraseDetails_eq (e : ErrorId) : h'.renderError s e = h.renderError s e := by
  rw [← Style.withDetails_false_of_hidden hhidden, renderError_withDetails_false,
    renderError_withDetails_false, herase]

theorem renderCollection_eq_of_eraseDetails_eq (c : CollectionId) :
    h'.renderCollection s c = h.renderCollection s c := by
  rw [← Style.withDetails_false_of_hidden hhidden, renderCollection_withDetails_false,
    renderCollection_withDetails_false, herase]

theorem render_eq_of_eraseDetails_eq {α : Type} (o : Outcome α) (text : α → String) :
    o.render text h' s = o.render text h s := by
  rw [← Style.withDetails_false_of_hidden hhidden, Outcome.render_withDetails_false,
    Outcome.render_withDetails_false, herase]

end TwoHeaps

/-- What a rendering with details hidden shows of a heap: for errors, collections and outcomes,
the rendering of the heap whose errors have no details, whatever the style's flag; so two heaps
that differ only in details render alike under every style that hides them. -/
structure HidesDetails (h : Heap) : Prop where
  renderError : ∀ s e, h.renderError (s.withDetails false) e = h.eraseDetails.renderError s e
  renderCollection : ∀ s c,
    h.renderCollection (s.withDetails false) c = h.eraseDetails.renderCollection s c
  render : ∀ {α : Type} (o : Outcome α) (text : α → String) s,
    o.render text h (s.withDetails false) = o.render text h.eraseDetails s
  renderError_eq : ∀ h' : Heap, h'.eraseDetails = h.eraseDetails → ∀ s : Style,
    s.includeDetails = false → ∀ e, h'.renderError s e = h.renderError s e
  renderCollection_eq : ∀ h' : Heap, h'.eraseDetails = h.eraseDetails → ∀ s : Style,
    s.includeDetails = false → ∀ c, h'.renderCollection s c = h.renderCollection s c
  render_eq : ∀ h' : Heap, h'.eraseDetails = h.eraseDetails → ∀ s : Style,
    s.includeDetails = false →
      ∀ {α : Type} (o : Outcome α) (text : α → String), o.render text h' s = o.render text h s

/-- In every heap, rendering errors, collections and outcomes with details hidden reads no
details, down to the errors of the collections of a cause chain. -/
theorem hidesDetails (h : Heap) : h.HidesDetails where
  renderError s e := congrFun (h.renderError_withDetails_false s) e
  renderCollection s c := congrFun (h.renderCollection_withDetails_false s) c
  render o text s := o.render_withDetails_false text h s
  renderError_eq _ herase _ hhidden e := renderError_eq_of_eraseDetails_eq herase hhidden e
  renderCollection_eq _ herase _ hhidden c :=
    renderCollection_eq_of_eraseDetails_eq herase hhidden c
  render_eq _ herase _ hhidden _ o text := render_eq_of_eraseDetails_eq herase hhidden o text

end Heap

end ErrorTrail
