import Mathlib.Logic.Relation
import Worksheet.Dependency.Cycle
import Worksheet.Proofs.Layout

namespace Worksheet

/-!
The graph of a grid is an index of its formulas in both directions: the
precedents of a cell are those of its formula, and a cell is among the
dependents of another exactly when it reads that other.
-/

theorem Formula.nodup_precedents (formula : String) : (precedents formula).Nodup := by
  unfold precedents
  split
  · exact nodup_distinct _
  · exact List.nodup_nil

namespace DependencyGraph

/-! ## The index of readers -/

theorem getD_addReader (reader : String) (readers : Std.HashMap String (List String))
    (id other : String) :
    (addReader reader readers id).getD other [] =
      if id = other then reader :: readers.getD other [] else readers.getD other [] := by
  rw [addReader, Std.HashMap.getD_alter]
  by_cases same : id = other
  · subst other
    rw [if_pos (beq_self_eq_true id), if_pos rfl, Option.getD_some,
      Std.HashMap.getD_eq_getD_getElem?]
  · rw [if_neg (by simpa using same), if_neg same]

theorem getD_foldl_addReader (reader : String) (ids : List String) (nodup : ids.Nodup)
    (readers : Std.HashMap String (List String)) (other : String) :
    (ids.foldl (addReader reader) readers).getD other [] =
      if other ∈ ids then reader :: readers.getD other [] else readers.getD other [] := by
  induction ids generalizing readers with
  | nil => rfl
  | cons id ids ih =>
    rcases List.nodup_cons.mp nodup with ⟨absent, nodup⟩
    rw [List.foldl_cons, ih nodup, getD_addReader]
    by_cases same : id = other
    · subst other
      rw [if_neg absent, if_pos rfl, if_pos List.mem_cons_self]
    · rw [if_neg same]
      simp only [List.mem_cons, Ne.symm same, false_or]

theorem getD_readersOf (edges : List (String × List String))
    (nodup : ∀ edge ∈ edges, edge.2.Nodup) (id : String) :
    (readersOf edges).getD id [] = (edges.filter (id ∈ ·.2)).map Prod.fst := by
  induction edges with
  | nil => exact Std.HashMap.getD_empty
  | cons edge edges ih =>
    rcases edge with ⟨reader, ids⟩
    have step : readersOf ((reader, ids) :: edges) =
        ids.foldl (addReader reader) (readersOf edges) := rfl
    rw [step, getD_foldl_addReader reader ids (nodup _ List.mem_cons_self),
      ih fun edge member => nodup edge (List.mem_cons_of_mem _ member), List.filter_cons]
    by_cases read : id ∈ ids
    · rw [if_pos read, if_pos (decide_eq_true read), List.map_cons]
    · rw [if_neg read, if_neg (by simpa using read)]

/-! ## The graph of a grid -/

variable {grid : Grid} {id reader read : String}

theorem cells_ofGrid (grid : Grid) : (ofGrid grid).cells = grid.formulas.map Prod.fst := by
  simp [ofGrid, Function.comp_def]

theorem mem_cells_ofGrid : id ∈ (ofGrid grid).cells ↔ (grid.formula? id).isSome := by
  rw [cells_ofGrid, Grid.mem_map_fst_formulas]

theorem exists_formula?_of_mem_cells (cell : id ∈ (ofGrid grid).cells) :
    ∃ formula, grid.formula? id = some formula :=
  Option.isSome_iff_exists.mp (mem_cells_ofGrid.mp cell)

theorem mem_cells_of_ne_none (formula : grid.formula? id ≠ none) : id ∈ (ofGrid grid).cells :=
  mem_cells_ofGrid.mpr (Option.isSome_iff_ne_none.mpr formula)

theorem nodup_cells_ofGrid (grid : Grid) : (ofGrid grid).cells.Nodup := by
  rw [cells_ofGrid]
  exact grid.nodup_map_fst_formulas

theorem precedents_ofGrid (grid : Grid) (id : String) :
    (ofGrid grid).precedents id = ((grid.formula? id).map Formula.precedents).getD [] := by
  have keys : (grid.formulas.map fun entry => (entry.1, Formula.precedents entry.2)).map
      Prod.fst = grid.formulas.map Prod.fst := by
    simp [Function.comp_def]
  unfold precedents ofGrid
  cases found : grid.formula? id with
  | none =>
    apply Std.HashMap.getD_ofList_of_contains_eq_false
    rw [keys, ← Bool.not_eq_true, List.contains_iff_mem, Grid.mem_map_fst_formulas, found]
    exact Bool.false_ne_true
  | some formula =>
    apply Std.HashMap.getD_ofList_of_mem (beq_self_eq_true id)
    · have distinct := grid.nodup_map_fst_formulas
      rw [← keys, List.Nodup, List.pairwise_map] at distinct
      exact distinct.imp fun different => beq_eq_false_iff_ne.mpr different
    · exact List.mem_map.mpr ⟨(id, formula), Grid.mem_formulas.mpr found, rfl⟩

theorem precedents_of_formula? {formula : String} (found : grid.formula? id = some formula) :
    (ofGrid grid).precedents id = Formula.precedents formula := by
  rw [precedents_ofGrid, found]
  rfl

theorem nodup_precedents_ofGrid (grid : Grid) (id : String) :
    ((ofGrid grid).precedents id).Nodup := by
  rw [precedents_ofGrid]
  cases grid.formula? id with
  | none => exact List.nodup_nil
  | some formula => exact Formula.nodup_precedents formula

theorem mem_cells_of_mem_precedents (member : read ∈ (ofGrid grid).precedents reader) :
    reader ∈ (ofGrid grid).cells := by
  rw [mem_cells_ofGrid]
  cases found : grid.formula? reader with
  | none =>
    rw [precedents_ofGrid, found] at member
    cases member
  | some formula => rfl

/-- What the graph has as precedents is what the formula of the cell names. -/
theorem mem_precedents_ofGrid :
    read ∈ (ofGrid grid).precedents reader ↔
      ∃ formula, grid.formula? reader = some formula ∧ read ∈ Formula.precedents formula := by
  constructor
  · intro member
    rcases exists_formula?_of_mem_cells (mem_cells_of_mem_precedents member) with ⟨formula, found⟩
    rw [precedents_of_formula? found] at member
    exact ⟨formula, found, member⟩
  · rintro ⟨formula, found, named⟩
    rwa [precedents_of_formula? found]

theorem dependents_ofGrid (grid : Grid) (id : String) :
    (ofGrid grid).dependents id =
      (grid.formulas.filter (id ∈ Formula.precedents ·.2)).map Prod.fst := by
  have nodup : ∀ edge ∈ grid.formulas.map fun entry => (entry.1, Formula.precedents entry.2),
      edge.2.Nodup := by
    intro edge member
    rcases List.mem_map.mp member with ⟨entry, _, rfl⟩
    exact Formula.nodup_precedents entry.2
  change (readersOf _).getD id [] = _
  rw [getD_readersOf _ nodup, List.filter_map, List.map_map]
  rfl

theorem nodup_dependents_ofGrid (grid : Grid) (id : String) :
    ((ofGrid grid).dependents id).Nodup := by
  rw [dependents_ofGrid]
  exact grid.nodup_map_fst_formulas.sublist (List.filter_sublist.map Prod.fst)

/-- The two directions of the index agree. -/
theorem mem_dependents_ofGrid :
    reader ∈ (ofGrid grid).dependents id ↔ id ∈ (ofGrid grid).precedents reader := by
  rw [dependents_ofGrid, List.mem_map, mem_precedents_ofGrid]
  constructor
  · rintro ⟨⟨_, formula⟩, member, rfl⟩
    rcases List.mem_filter.mp member with ⟨listed, reads⟩
    exact ⟨formula, Grid.mem_formulas.mp listed, of_decide_eq_true reads⟩
  · rintro ⟨formula, found, reads⟩
    exact ⟨(reader, formula),
      List.mem_filter.mpr ⟨Grid.mem_formulas.mpr found, decide_eq_true reads⟩, rfl⟩

end DependencyGraph
end Worksheet
