import Worksheet.Proofs.Dependency.Graph
import Worksheet.Recalculation.Edit

namespace Worksheet
namespace Grid

/-!
Evaluation from a snapshot.  The formulas of some cells are all evaluated over
one grid before any result is written, so no cell sees the new value of
another.
-/

variable {grid : Grid} {id formula value : String}

/-! ## Writing several values -/

theorem sameLayout_foldl_setValue (results : List (String × String)) (grid : Grid) :
    SameLayout (results.foldl (fun grid (id, value) => grid.setValue id value) grid) grid := by
  induction results generalizing grid with
  | nil => exact .refl grid
  | cons result results ih =>
    exact (ih (grid.setValue result.1 result.2)).trans (sameLayout_setValue grid _ _)

theorem get?_foldl_setValue_of_not_mem {results : List (String × String)}
    (absent : id ∉ results.map Prod.fst) :
    (results.foldl (fun grid (id, value) => grid.setValue id value) grid).get? id =
      grid.get? id := by
  induction results generalizing grid with
  | nil => rfl
  | cons result results ih =>
    rw [List.map_cons, List.mem_cons, not_or] at absent
    rw [List.foldl_cons, ih absent.2, get?_setValue_of_ne _ _ (Ne.symm absent.1)]

theorem value?_foldl_setValue {results : List (String × String)}
    (nodup : (results.map Prod.fst).Nodup) (member : (id, value) ∈ results)
    (present : grid.Holds id) :
    (results.foldl (fun grid (id, value) => grid.setValue id value) grid).value? id =
      some value := by
  induction results generalizing grid with
  | nil => cases member
  | cons result results ih =>
    rcases List.nodup_cons.mp nodup with ⟨absent, nodup⟩
    rw [List.foldl_cons]
    rcases List.mem_cons.mp member with rfl | later
    · rw [value?_eq_of_get? (get?_foldl_setValue_of_not_mem absent)]
      exact value?_setValue_self value present
    · refine ih nodup later ?_
      rw [holds_congr (sameLayout_setValue grid result.1 result.2)]
      exact present

/-! ## Evaluating several cells -/

theorem map_fst_results (grid : Grid) (ids : List String) :
    (ids.filterMap fun id => (grid.evaluated? id).map (id, ·)).map Prod.fst =
      ids.filter fun id => (grid.evaluated? id).isSome := by
  induction ids with
  | nil => rfl
  | cons id ids ih => cases evaluated : grid.evaluated? id <;> simp [evaluated, ih]

theorem sameLayout_evaluateEach (grid : Grid) (ids : List String) :
    SameLayout (grid.evaluateEach ids) grid :=
  sameLayout_foldl_setValue _ grid

theorem get?_evaluateEach_of_not_mem {ids : List String} (absent : id ∉ ids) :
    (grid.evaluateEach ids).get? id = grid.get? id := by
  refine get?_foldl_setValue_of_not_mem fun member => absent ?_
  rw [map_fst_results] at member
  exact List.mem_of_mem_filter member

/-- A formula among those that are evaluated gets its value over the grid
before. -/
theorem value?_evaluateEach {ids : List String} (nodup : ids.Nodup) (member : id ∈ ids)
    (found : grid.formula? id = some formula) :
    (grid.evaluateEach ids).value? id = some (Formula.evaluate formula grid.value?) := by
  refine value?_foldl_setValue ?_ (List.mem_filterMap.mpr ⟨id, member, ?_⟩)
    (isSome_get?_of_formula? found)
  · rw [map_fst_results]
    exact nodup.filter _
  · rw [evaluated?, ← formula?, found]
    rfl

/-! ## One direct pass -/

theorem sameLayout_recalculate_direct (grid : Grid) :
    SameLayout (grid.recalculate .direct) grid :=
  sameLayout_evaluateEach grid _

theorem get?_recalculate_direct (plain : grid.formula? id = none) :
    (grid.recalculate .direct).get? id = grid.get? id := by
  refine get?_evaluateEach_of_not_mem fun member => ?_
  rw [mem_map_fst_formulas, plain] at member
  cases member

/-- A direct pass gives each formula its value over the grid before. -/
theorem value?_recalculate_direct (found : grid.formula? id = some formula) :
    (grid.recalculate .direct).value? id = some (Formula.evaluate formula grid.value?) := by
  refine value?_evaluateEach (nodup_map_fst_formulas grid) ?_ found
  rw [mem_map_fst_formulas, found]
  rfl

end Grid
end Worksheet
