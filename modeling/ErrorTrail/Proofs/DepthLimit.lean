import ErrorTrail.Render

/-! # Chains cut at a depth limit: under every style a program builds, the first links and a
note. -/

namespace ErrorTrail

namespace Layout

/-- The pieces a cut chain shows: its first links, as many as the limit and all of them without
one, then a note with the number of links left out, if any are. -/
def shownPieces (links : List String) (maxDepth : Option Nat) : List String :=
  let limit := maxDepth.getD links.length
  links.take limit ++
    if limit < links.length then ["... (" ++ toString (links.length - limit) ++ " more)"] else []

theorem join_append_singleton {items : List String} (hitems : items ≠ [])
    (separator last : String) :
    join (items ++ [last]) separator = join items separator ++ separator ++ last := by
  rw [join, String.intercalate_append_of_ne_nil hitems (List.cons_ne_nil last []),
    String.intercalate_singleton]
  rfl

/-- Under a limit of at least one, or none, a cut chain is the join of the pieces it shows. -/
theorem chain_eq_join_shownPieces (links : List String) (link : String) (maxDepth : Option Nat)
    (hdepth : ∀ m ∈ maxDepth, 0 < m) :
    chain links link maxDepth = join (shownPieces links maxDepth) link := by
  cases maxDepth with
  | none => simp [chain, shownPieces, shownCount]
  | some limit =>
      have hpos : 0 < limit := hdepth limit rfl
      by_cases hcut : limit < links.length
      · -- the note follows the shown links after the link text, as there are shown links
        have hshown : links.take limit ≠ [] := List.ne_nil_of_length_pos (by simp; omega)
        have hmin : min limit links.length = limit := Nat.min_eq_left (Nat.le_of_lt hcut)
        simp only [chain, shownCount, hmin, shownPieces, Option.getD_some, hcut, if_true,
          join_append_singleton hshown, Nat.sub_pos_of_lt hcut, String.append_assoc]
      · -- every link is shown and nothing follows
        have hall : limit ≥ links.length := Nat.le_of_not_lt hcut
        simp [chain, shownCount, shownPieces, hcut, Nat.min_eq_right hall,
          List.take_of_length_le hall]

/-- With a limit of zero, a chain with links starts with the link text. -/
theorem chain_zero {links : List String} (hlinks : links ≠ []) (link : String) :
    chain links link (some 0) = link ++ "... (" ++ toString links.length ++ " more)" := by
  have hpos : 0 < links.length := List.length_pos_iff.mpr hlinks
  simp [chain, shownCount, join, hpos]

end Layout

namespace Style

/-- The styles a program can build: a preset, changed by any of the builders. -/
inductive Built : Style → Prop
  | full : Built full
  | redacted : Built redacted
  | withErrorLink {s : Style} (link : String) : Built s → Built (s.withErrorLink link)
  | withCollectionLink {s : Style} (link : String) : Built s → Built (s.withCollectionLink link)
  | withListSeparator {s : Style} (separator : String) :
      Built s → Built (s.withListSeparator separator)
  | withDetails {s : Style} (shown : Bool) : Built s → Built (s.withDetails shown)
  | withMaxDepth {s : Style} (depth : Nat) : Built s → Built (s.withMaxDepth depth)

/-- A style a program builds has no limit or a limit of at least one: the presets have none,
`withMaxDepth` raises the limit it is given to one, and the other builders keep the limit. -/
theorem Built.maxDepth_pos {s : Style} (hs : s.Built) : ∀ m ∈ s.maxDepth, 0 < m := by
  induction hs with
  | full | redacted =>
      intro m hm
      cases hm
  | withErrorLink _ _ ih | withCollectionLink _ _ ih | withListSeparator _ _ ih
  | withDetails _ _ ih => exact ih
  | withMaxDepth depth _ _ =>
      intro m hm
      simp only [Style.withMaxDepth, Option.mem_def, Option.some.injEq] at hm
      omega

end Style

/-- What the depth limit does: a chain under no limit or a limit of at least one is the join of
the pieces it shows; every style a program builds has such a limit, so errors and collections
render as the join of their first links and the note; and under a limit of zero a chain with
links starts with the link text. -/
structure DepthCut : Prop where
  chain_eq : ∀ (links : List String) (link : String) (maxDepth : Option Nat),
    (∀ m ∈ maxDepth, 0 < m) →
      Layout.chain links link maxDepth = Layout.join (Layout.shownPieces links maxDepth) link
  maxDepth_pos : ∀ style : Style, style.Built → ∀ m ∈ style.maxDepth, 0 < m
  renderError : ∀ style : Style, style.Built → ∀ (h : Heap) (e : ErrorId),
    h.renderError style e = Layout.join
      (Layout.shownPieces ((h.errorChain e).map (h.renderErrorLink style)) style.maxDepth)
      style.errorLink
  renderCollection : ∀ style : Style, style.Built → ∀ (h : Heap) (c : CollectionId),
    h.renderCollection style c = Layout.join
      (Layout.shownPieces ((h.collectionChain c).map (h.renderCollectionLink style))
        style.maxDepth)
      style.collectionLink
  chain_zero : ∀ (links : List String) (link : String), links ≠ [] →
    Layout.chain links link (some 0) = link ++ "... (" ++ toString links.length ++ " more)"

/-- A chain cut at a limit that a style can hold shows its first links and counts the rest, for
every list of links and every error and collection of every heap; a limit of zero, which no
style a program builds holds, would put the link text first. -/
theorem depthCut : DepthCut where
  chain_eq := Layout.chain_eq_join_shownPieces
  maxDepth_pos _ hbuilt := hbuilt.maxDepth_pos
  renderError _ hbuilt _ _ := Layout.chain_eq_join_shownPieces _ _ _ hbuilt.maxDepth_pos
  renderCollection _ hbuilt _ _ := Layout.chain_eq_join_shownPieces _ _ _ hbuilt.maxDepth_pos
  chain_zero _ _ hlinks := Layout.chain_zero hlinks _

end ErrorTrail
