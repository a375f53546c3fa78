import Worksheet.Recalculation.Mode
import Worksheet.Recalculation.Schedule

namespace Worksheet
namespace Grid

/-!
Edits and recalculation.  An edit merges an update into a cell.  In direct
mode the cell is evaluated and then, once and from one snapshot, every
formula that mentions it.  In full mode everything that depends on the cell
is evaluated in order.
-/

/-- The formula cells that mention a cell, itself excepted. -/
def mentioning (grid : Grid) (id : String) : List String :=
  grid.formulas.filterMap fun (reader, formula) =>
    if reader ≠ id ∧ id ∈ Formula.mentionedIds formula then some reader else none

/-- The values that the formula of an edited cell reads: the cell itself has
the value from before the edit. -/
def editLookup (before merged : Grid) (id : String) : Lookup := fun read =>
  if read = id then before.value? id else merged.value? read

/-- A grid after an edit of a cell, with the cell's own formula evaluated. -/
def evaluateEdited (before merged : Grid) (id : String) : Grid :=
  match (merged.get? id).bind (·.activeFormula?) with
  | some formula => merged.setValue id (Formula.evaluate formula (editLookup before merged id))
  | none => merged

/-- A grid after an edit, followed one level deep. -/
def followDirectly (before merged : Grid) (id : String) : Grid :=
  let snapshot := evaluateEdited before merged id
  snapshot.evaluateEach (snapshot.mentioning id)

/-- A grid after an edit, followed through all dependents. -/
def followFully (merged : Grid) (id : String) : Grid :=
  let graph := DependencyGraph.ofGrid merged
  let reached : Std.HashSet String := .ofList (graph.transitiveDependents id)
  merged.evaluateInOrder graph
    (graph.cells.filter fun cell => cell ∈ reached || cell = id)

/-- A grid with an update merged into a cell and followed. -/
def edit (grid : Grid) (mode : RecalculationMode) (target : String) (change : CellUpdate) : Grid :=
  let id := canonicalId target
  let merged := grid.update id change
  match mode with
  | .direct => followDirectly grid merged id
  | .full => followFully merged id

/-- A grid with every formula evaluated. -/
def recalculate (grid : Grid) (mode : RecalculationMode) : Grid :=
  match mode with
  | .direct => grid.evaluateEach (grid.formulas.map Prod.fst)
  | .full =>
    let graph := DependencyGraph.ofGrid grid
    grid.evaluateInOrder graph graph.cells

end Grid
end Worksheet
