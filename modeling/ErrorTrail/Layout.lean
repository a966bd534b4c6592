/-! # Layout: lists joined by a separator, and chains of links cut after a number of links. -/

namespace ErrorTrail.Layout

/-- The items with the separator between each two. -/
def join (items : List String) (separator : String) : String :=
  separator.intercalate items

/-- How many links a chain of `count` links shows under the depth limit. -/
def shownCount (count : Nat) : Option Nat → Nat
  | none => count
  | some limit => min limit count

/-- The first links of a chain, as many as the depth limit allows, joined by the link text;
when links are left out, the link text and a note with their number follow. -/
def chain (links : List String) (link : String) (maxDepth : Option Nat) : String :=
  let shown := shownCount links.length maxDepth
  let hidden := links.length - shown
  let body := join (links.take shown) link
  if 0 < hidden then body ++ link ++ "... (" ++ toString hidden ++ " more)" else body

example : chain ["a", "b", "c"] " <- " (some 2) = "a <- b <- ... (1 more)" := by decide
example : chain ["a", "b"] " <- " (some 0) = " <- ... (2 more)" := by decide

end ErrorTrail.Layout
