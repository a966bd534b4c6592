import ErrorTrail.Proofs.Index
import ErrorTrail.Render

/-! # Equal errors render alike, and so does a collection whose errors are replaced by
equal ones. -/

namespace ErrorTrail

/-- The text of one link, from what structural equality compares at that link. -/
def Fingerprint.linkText (p : Fingerprint) (style : Style) : String :=
  let base := p.kindName ++ ": " ++ p.description
  match style.includeDetails, p.details with
  | true, some details => base ++ " [details: " ++ details ++ "]"
  | _, _ => base

namespace Heap

variable (h : Heap)

/-- A link is rendered from the fingerprint of its error alone. -/
theorem renderErrorLink_eq_linkText (s : Style) (e : ErrorId) :
    h.renderErrorLink s e = (h.fingerprint e).linkText s := rfl

/-- Errors whose chains have the same fingerprints, link by link, render alike: the depth cut
sees only the number of links. -/
theorem renderError_eq_of_fingerprints_eq {a b : ErrorId}
    (hprints : (h.errorChain a).map h.fingerprint = (h.errorChain b).map h.fingerprint)
    (s : Style) : h.renderError s a = h.renderError s b := by
  have hfactor : h.renderErrorLink s = (Fingerprint.linkText · s) ∘ h.fingerprint :=
    funext (h.renderErrorLink_eq_linkText s)
  have hlinks : (h.errorChain a).map (h.renderErrorLink s) =
      (h.errorChain b).map (h.renderErrorLink s) := by
    rw [hfactor, ← List.map_map, ← List.map_map, hprints]
  rw [renderError, renderError, hlinks]

variable {h}

theorem Linked.renderError_eq_of_sameError (hl : h.Linked) (s : Style) {a b : ErrorId}
    (hab : h.sameError a b = true) : h.renderError s a = h.renderError s b :=
  h.renderError_eq_of_fingerprints_eq ((hl.sameError_iff a b).mp hab) s

/-- Lists of errors equal position by position render to the same list of texts. -/
theorem Linked.map_renderError_eq (hl : h.Linked) (s : Style) {l l' : List ErrorId}
    (hlist : List.Forall₂ (fun a b => h.sameError a b = true) l l') :
    l.map (h.renderError s) = l'.map (h.renderError s) := by
  induction hlist with
  | nil => rfl
  | cons hab _ ih => rw [List.map_cons, List.map_cons, hl.renderError_eq_of_sameError s hab, ih]

/-! ## Collections whose errors are replaced -/

section Replacement

variable {h' : Heap}

/-- Rendering an error reads the error nodes only. -/
theorem renderError_of_errors_eq (heq : h'.errors = h.errors) : h'.renderError = h.renderError := by
  have hlink : h'.renderErrorLink = h.renderErrorLink := by
    funext s e
    simp only [renderErrorLink, error, heq]
  funext s e
  simp only [renderError, hlink, errorChain_of_errors_eq heq]

/-- Replacing the errors of a live collection by errors equal to them, position by position,
changes the rendering of no collection. -/
theorem Linked.renderCollection_replaceErrors (hl : h.Linked) {d : CollectionId}
    (hd : h.HasCollection d) {errors : ErrorSet}
    (hequal : List.Forall₂ (fun a b => h.sameError a b = true) (h.localErrors d) errors.toList)
    (s : Style) (c : CollectionId) :
    (h.modifyCollection d fun n => { n with errors := errors }).renderCollection s c =
      h.renderCollection s c := by
  have hchain := collectionChain_of_causes_eq
    (h.collectionCause_modifyCollection d (fun n => { n with errors := errors }) fun _ => rfl)
    (h.size_collections_modifyCollection d _)
  have hrender := renderError_of_errors_eq (h.errors_modifyCollection d
    (fun n => { n with errors := errors }))
  -- only the link of `d` reads the new errors, and they render as the old ones
  have hlink : (h.modifyCollection d fun n => { n with errors := errors }).renderCollectionLink s =
      h.renderCollectionLink s := by
    funext x
    by_cases hx : x = d
    · subst hx
      simp only [renderCollectionLink, localErrors, hrender, h.collection_modifyCollection_self _ hd]
      rw [← localErrors, hl.map_renderError_eq s hequal]
    · simp only [renderCollectionLink, localErrors, hrender, h.collection_modifyCollection_of_ne _ hx]
  simp only [renderCollection, hchain, hlink]

end Replacement

/-- Rendering respects structural equality: equal errors render alike under every style, lists
of errors equal position by position render alike, and a collection whose errors are replaced by
equal ones renders, with every collection of the heap, as before. -/
structure RenderCongruence (h : Heap) : Prop where
  renderError_eq : ∀ s a b, h.sameError a b = true → h.renderError s a = h.renderError s b
  map_renderError_eq : ∀ s l l', List.Forall₂ (fun a b => h.sameError a b = true) l l' →
    l.map (h.renderError s) = l'.map (h.renderError s)
  renderCollection_replaceErrors : ∀ d (errors : ErrorSet), h.HasCollection d →
    List.Forall₂ (fun a b => h.sameError a b = true) (h.localErrors d) errors.toList →
    ∀ s c, (h.modifyCollection d fun n => { n with errors := errors }).renderCollection s c =
      h.renderCollection s c

/-- In every reachable heap, two structurally equal errors render alike under every style,
whatever its link texts, details flag and depth limit; so replacing errors of a collection by
equal ones does not change how any collection renders. -/
theorem Reachable.renderCongruence (hr : Reachable h) : h.RenderCongruence where
  renderError_eq s _ _ hab := hr.linked.renderError_eq_of_sameError s hab
  map_renderError_eq s _ _ hlist := hr.linked.map_renderError_eq s hlist
  renderCollection_replaceErrors _ _ hd hequal := hr.linked.renderCollection_replaceErrors hd hequal

/-- Two chains of a write failure caused by a full disk with an error code, built from four
distinct nodes: the two write failures are equal. -/
theorem renderCongruence_of_twin_chains :
    Reachable (((({} : Heap).apply (.createError Kind.failure "disk full" (some "errno 28") none)
      |>.apply (.createError Kind.failure "write failed" none (some ⟨0⟩)))
      |>.apply (.createError Kind.failure "disk full" (some "errno 28") none))
      |>.apply (.createError Kind.failure "write failed" none (some ⟨2⟩))) ∧
    let h := ((({} : Heap).apply (.createError Kind.failure "disk full" (some "errno 28") none)
      |>.apply (.createError Kind.failure "write failed" none (some ⟨0⟩)))
      |>.apply (.createError Kind.failure "disk full" (some "errno 28") none))
      |>.apply (.createError Kind.failure "write failed" none (some ⟨2⟩))
    h.RenderCongruence ∧ h.sameError ⟨1⟩ ⟨3⟩ = true := by
  have hr : Reachable (((({} : Heap).apply
        (.createError Kind.failure "disk full" (some "errno 28") none)
      |>.apply (.createError Kind.failure "write failed" none (some ⟨0⟩)))
      |>.apply (.createError Kind.failure "disk full" (some "errno 28") none))
      |>.apply (.createError Kind.failure "write failed" none (some ⟨2⟩))) := by
    refine .step _ (.step _ (.step _ (.step _ (.empty hash) ?_) ?_) ?_) ?_
    · simp [Op.Valid]
    · simp only [Op.Valid, Option.some.injEq, forall_eq']
      decide
    · simp [Op.Valid]
    · simp only [Op.Valid, Option.some.injEq, forall_eq']
      decide
  exact ⟨hr, Reachable.renderCongruence hr, by decide⟩

end Heap

end ErrorTrail
