import Worksheet.Dependency.Graph

namespace Worksheet
namespace DependencyGraph

/-!
Circular dependencies.  The search for a cycle through a cell walks from cell
to precedent, the first precedent first, and turns back where it has been
before.  It keeps the cells on its way together with the precedents that it
has not tried yet.
-/

/-- How much is left to try on the way. -/
def remaining (way : List (String × List String)) : Nat :=
  way.foldr (fun (_, untried) total => untried.length + 1 + total) 0

/-- Continues the search for a way back to a cell.  The way has its last cell
first; cells without formula lead nowhere and count as visited. -/
def searchCycle (graph : DependencyGraph) (start : String) (unvisited : Std.HashSet String)
    (way : List (String × List String)) : Option (List String) :=
  match way with
  | [] => none
  | (_, []) :: before => graph.searchCycle start unvisited before
  | (id, next :: untried) :: before =>
    if next = start then some ((start :: id :: before.map Prod.fst).reverse)
    else if next ∈ unvisited then
      graph.searchCycle start (unvisited.erase next)
        ((next, graph.precedents next) :: (id, untried) :: before)
    else graph.searchCycle start unvisited ((id, untried) :: before)
termination_by (unvisited.size, remaining way)
decreasing_by
  · apply Prod.Lex.right
    simp [remaining]
  · next member =>
    have size := Std.HashSet.size_erase (m := unvisited) (k := next)
    have positive : 0 < unvisited.size := by
      have := Std.HashSet.isEmpty_eq_false_iff_exists_mem.mpr ⟨next, member⟩
      rw [Std.HashSet.isEmpty_eq_size_eq_zero] at this
      simp at this
      omega
    simp only [member, if_true] at size
    apply Prod.Lex.left
    omega
  · apply Prod.Lex.right
    simp [remaining]

/-- A way from a cell through precedents back to the cell, both ends
included. -/
def cycleThrough? (graph : DependencyGraph) (start : String) : Option (List String) :=
  graph.searchCycle start (.ofList graph.cells) [(start, graph.precedents start)]

/-- Whether a cell lies on a cycle. -/
def isCircular (graph : DependencyGraph) (id : String) : Bool :=
  (graph.cycleThrough? id).isSome

end DependencyGraph
end Worksheet
