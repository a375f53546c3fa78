import Std.Data.HashMap
import Std.Data.HashSet
import Worksheet.Formula.Precedents
import Worksheet.Grid

namespace Worksheet

/-!
The dependency graph of a grid.  Every formula cell has edges to the cells it
reads.  The graph holds them in both directions, so that what a cell reads
and what reads it are found equally fast.
-/

/-- Which cells of a grid have formulas, and who reads whom. -/
structure DependencyGraph where
  /-- The cells with formulas, in the order of their identifiers. -/
  cells : List String
  reads : Std.HashMap String (List String)
  readers : Std.HashMap String (List String)

namespace DependencyGraph

/-- An index with one more reader of a cell, in front of the others. -/
def addReader (reader : String) (readers : Std.HashMap String (List String)) (id : String) :
    Std.HashMap String (List String) :=
  readers.alter id fun before => some (reader :: before.getD [])

/-- The readers of each cell that is read, in the order of their
identifiers. -/
def readersOf (edges : List (String × List String)) : Std.HashMap String (List String) :=
  edges.foldr (fun (reader, ids) readers => ids.foldl (addReader reader) readers) ∅

/-- The graph of a grid. -/
def ofGrid (grid : Grid) : DependencyGraph :=
  let edges := grid.formulas.map fun (id, formula) => (id, Formula.precedents formula)
  { cells := edges.map Prod.fst
    reads := .ofList edges
    readers := readersOf edges }

/-- The cells that a cell reads, in the order in which its formula names
them. -/
def precedents (graph : DependencyGraph) (id : String) : List String :=
  graph.reads.getD id []

/-- The formula cells that read a cell, in the order of their identifiers. -/
def dependents (graph : DependencyGraph) (id : String) : List String :=
  graph.readers.getD id []

/-! ## Transitive dependents -/

/-- Takes away from a set of cells those in a list and all that read them,
directly or through other cells of the set. -/
def withoutReached (graph : DependencyGraph) (unreached : Std.HashSet String) (work : List String) :
    Std.HashSet String :=
  match work with
  | [] => unreached
  | id :: rest =>
    if id ∈ unreached then
      graph.withoutReached (unreached.erase id) (graph.dependents id ++ rest)
    else graph.withoutReached unreached rest
termination_by (unreached.size, work.length)
decreasing_by
  · next member =>
    have size := Std.HashSet.size_erase (m := unreached) (k := id)
    have positive : 0 < unreached.size := by
      have := Std.HashSet.isEmpty_eq_false_iff_exists_mem.mpr ⟨id, member⟩
      rw [Std.HashSet.isEmpty_eq_size_eq_zero] at this
      simp at this
      omega
    simp only [member, if_true] at size
    apply Prod.Lex.left
    omega
  · apply Prod.Lex.right
    simp

/-- The formula cells that read a cell, directly or through others, in the
order of their identifiers.  The cell itself is among them only if it lies on
a cycle. -/
def transitiveDependents (graph : DependencyGraph) (id : String) : List String :=
  let unreached := graph.withoutReached (.ofList graph.cells) (graph.dependents id)
  graph.cells.filter (· ∉ unreached)

end DependencyGraph
end Worksheet
