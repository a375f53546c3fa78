import Worksheet.Proofs.Formula.PlainCalls
import Worksheet.Proofs.Recalculation.Full

namespace Worksheet
namespace Grid

/-!
The cycles that full recalculation reports.  A cell is marked as circular when
its text leads back to it through the texts of other formulas, whether or not
evaluation would ever follow them.  A step from a plain call is one that
evaluation follows, so on a sheet of plain calls no cycle is reported in vain.
-/

open DependencyGraph (ofGrid)

/-- Whether the evaluation of a cell's formula can look up another cell. -/
def Consults (grid : Grid) (reader read : String) : Prop :=
  ∃ formula lookup, grid.formula? reader = some formula ∧ Formula.Consults formula lookup read

/-- A step of a reported cycle: the formula of one cell names another.  If it is
a plain call, evaluation really looks that cell up, unless it ends in a fault. -/
def CycleStep (grid : Grid) (reader read : String) : Prop :=
  ∃ formula, grid.formula? reader = some formula ∧ read ∈ Formula.precedents formula ∧
    (Formula.PlainCall formula →
      (∀ lookup, Formula.evaluate? formula lookup ≠ .error .fault →
        Formula.Consults formula lookup read) ∧
      ∃ lookup, Formula.Consults formula lookup read)

variable {grid : Grid} {id reader read : String}

theorem CycleStep.consults (step : grid.CycleStep reader read)
    (plain : ∀ formula, grid.formula? reader = some formula → Formula.PlainCall formula) :
    grid.Consults reader read := by
  rcases step with ⟨formula, found, _, real⟩
  rcases (real (plain formula found)).2 with ⟨lookup, consulted⟩
  exact ⟨formula, lookup, found, consulted⟩

theorem cycleStep_of_reads (reads : (ofGrid grid).Reads reader read)
    (canonical : canonicalId read = read) : grid.CycleStep reader read := by
  rcases DependencyGraph.mem_precedents_ofGrid.mp reads with ⟨formula, found, named⟩
  exact ⟨formula, found, named, fun plain => plain.consults named canonical⟩

/-- On canonical identifiers a cycle of the graph is one of such steps: each cell
of it has a formula, so that its identifier is one of the grid. -/
theorem transGen_cycleStep (canonical : ∀ id, grid.Holds id → canonicalId id = id)
    (cycle : (ofGrid grid).OnCycle id) : Relation.TransGen grid.CycleStep id id := by
  have formulaCanonical (read : String) (cell : read ∈ (ofGrid grid).cells) :
      canonicalId read = read := by
    rcases DependencyGraph.exists_formula?_of_mem_cells cell with ⟨formula, found⟩
    exact canonical read (isSome_get?_of_formula? found)
  have follow (start : String) (depends : (ofGrid grid).DependsOn start id) :
      Relation.TransGen grid.CycleStep start id := by
    induction depends using Relation.TransGen.head_induction_on with
    | single reads => exact .single (cycleStep_of_reads reads (formulaCanonical _ cycle.mem_cells))
    | head reads rest ih =>
      exact .head (cycleStep_of_reads reads
        (formulaCanonical _ (DependencyGraph.DependsOn.mem_cells rest))) ih
  exact follow id cycle

theorem isSome_cycleThrough? :
    ((ofGrid grid).cycleThrough? id).isSome ↔ (ofGrid grid).OnCycle id :=
  DependencyGraph.isCircular_ofGrid

theorem circular_of_onCycle (cycle : (ofGrid grid).OnCycle id) :
    (grid.recalculate .full).value? id = some FormulaError.circular.token :=
  (recalculated_recalculate grid).circular id
    (DependencyGraph.mem_cells_ofGrid.mp cycle.mem_cells) cycle

/-- Off the reported cycles a formula has the value of its evaluation. -/
theorem exists_evaluationStage {formula : String} (found : grid.formula? id = some formula)
    (acyclic : ¬(ofGrid grid).OnCycle id) :
    (ofGrid grid).cycleThrough? id = none ∧
      ∃ stage, EvaluationStage grid (grid.recalculate .full) id formula stage := by
  refine ⟨Option.not_isSome_iff_eq_none.mp (mt isSome_cycleThrough?.mp acyclic), ?_⟩
  have affected : (grid.formula? id).isSome := by
    rw [found]
    rfl
  rcases (recalculated_recalculate grid).evaluated id affected acyclic with
      ⟨same, stage, found', evaluated⟩
  obtain rfl : same = formula := Option.some.inj (found'.symm.trans found)
  exact ⟨stage, evaluated⟩

/-- Full recalculation reports a cycle only where a chain of formulas that name
one another leads back, and the steps from plain calls are such as evaluation
follows.  Every other formula is evaluated; where all formulas are plain calls,
these are the ones that never consult their own cell through others. -/
theorem reported_cycles_are_named {grid : Grid}
    (canonical : ∀ id, grid.Holds id → canonicalId id = id) :
    (∀ id, ((ofGrid grid).cycleThrough? id).isSome →
      (grid.recalculate .full).value? id = some FormulaError.circular.token ∧
        Relation.TransGen grid.CycleStep id id) ∧
    (∀ id formula, grid.formula? id = some formula → ¬Relation.TransGen grid.CycleStep id id →
      (ofGrid grid).cycleThrough? id = none ∧
        ∃ stage, EvaluationStage grid (grid.recalculate .full) id formula stage) ∧
    ((∀ id formula, grid.formula? id = some formula → Formula.PlainCall formula) →
      ∀ id formula, grid.formula? id = some formula → ¬Relation.TransGen grid.Consults id id →
        (ofGrid grid).cycleThrough? id = none ∧
          ∃ stage, EvaluationStage grid (grid.recalculate .full) id formula stage) := by
  refine ⟨fun id reported => ?_, fun id formula found none => ?_,
    fun plain id formula found none => ?_⟩
  · have cycle := isSome_cycleThrough?.mp reported
    exact ⟨circular_of_onCycle cycle, transGen_cycleStep canonical cycle⟩
  · exact exists_evaluationStage found (mt (transGen_cycleStep canonical) none)
  · refine exists_evaluationStage found fun cycle => none ?_
    exact (transGen_cycleStep canonical cycle).lift (fun read => read)
      fun reader read step => step.consults (plain reader)

theorem canonical_ofList {entries : List (String × Cell)}
    (canonical : ∀ entry ∈ entries, canonicalId entry.1 = entry.1) :
    ∀ id, (Grid.ofList entries).Holds id → canonicalId id = id := by
  have kept (grid : Grid) (before : ∀ id, grid.Holds id → canonicalId id = id) :
      ∀ id, (entries.foldl (fun grid entry => grid.insert entry.1 entry.2) grid).Holds id →
        canonicalId id = id := by
    induction entries generalizing grid with
    | nil => exact before
    | cons entry entries ih =>
      rcases List.forall_mem_cons.mp canonical with ⟨here, later⟩
      refine ih later _ fun id holds => ?_
      rw [Holds, get?_insert] at holds
      split at holds
      · next same => rwa [← same]
      · exact before id holds
  refine kept empty fun id holds => ?_
  rw [Holds, get?_empty] at holds
  cases holds

theorem reads_of_scanned {formula : String} (found : grid.formula? reader = some formula)
    (scanned : read ∈ Formula.scannedIds formula.toList) : (ofGrid grid).Reads reader read :=
  DependencyGraph.mem_precedents_ofGrid.mpr
    ⟨formula, found, (Formula.mem_precedents (isFormula_of_formula? found)).mpr scanned⟩

theorem reported_cycles_are_named_of_plain_calls :
    let grid := Grid.ofList
      [("A1", .ofInput "=SUM(B1:B2)"), ("B1", .ofInput "=POWER(C1, $A$1)")]
    (∀ id, grid.Holds id → canonicalId id = id) ∧
      (∀ id formula, grid.formula? id = some formula → Formula.PlainCall formula) ∧
      (grid.recalculate .full).value? "A1" = some FormulaError.circular.token ∧
      Relation.TransGen grid.Consults "A1" "A1" := by
  intro grid
  have cells (id : String) : grid.get? id =
      if "B1" = id then some (.ofInput "=POWER(C1, $A$1)")
      else if "A1" = id then some (.ofInput "=SUM(B1:B2)") else none := by
    simp [grid, Grid.ofList, Grid.get?_insert]
  have canonical : ∀ id, grid.Holds id → canonicalId id = id :=
    canonical_ofList (by decide +kernel)
  have isToken (id : String) (canonical : canonicalId id = id) : Reference.IsToken id.toList :=
    Reference.isToken_of_canonical canonical
  have within (formula : String) (arguments : List Char) (starts : isFormula formula = true)
      (inside : ∀ id ∈ Formula.scannedIds formula.toList, id ∈ Formula.scannedIds arguments) :
      ∀ id ∈ Formula.precedents formula, id ∈ Formula.scannedIds arguments :=
    fun id named => inside id ((Formula.mem_precedents starts).mp named)
  have sum : Formula.PlainCall "=SUM(B1:B2)" :=
    ⟨.sum, "B1:B2".toList, by decide +kernel, .inr ⟨"B1".toList, "B2".toList, ["B1", "B2"],
      by decide +kernel, isToken "B1" (by decide +kernel), isToken "B2" (by decide +kernel),
      by decide +kernel⟩, within _ _ (by decide) (by decide +kernel)⟩
  have power : Formula.PlainCall "=POWER(C1, $A$1)" :=
    ⟨.power, "C1, $A$1".toList, by decide +kernel, ⟨"C1".toList, " $A$1".toList, [],
      by decide +kernel, .inr (isToken "C1" (by decide +kernel)), by decide +kernel,
      .inr ⟨true, ['A'], true, ['1'], by decide +kernel,
        ⟨List.cons_ne_nil _ _, List.forall_mem_singleton.mpr rfl⟩,
        List.cons_ne_nil _ _, List.forall_mem_singleton.mpr rfl⟩,
      fun _ member => nomatch member⟩, within _ _ (by decide) (by decide +kernel)⟩
  have plain (id formula : String) (found : grid.formula? id = some formula) :
      Formula.PlainCall formula := by
    rw [formula?, cells] at found
    split at found
    · rw [← Option.some.inj found]
      exact power
    · split at found
      · rw [← Option.some.inj found]
        exact sum
      · cases found
  have first : grid.formula? "A1" = some "=SUM(B1:B2)" := by
    rw [formula?, cells]
    rfl
  have second : grid.formula? "B1" = some "=POWER(C1, $A$1)" := by
    rw [formula?, cells]
    rfl
  have cycle : (ofGrid grid).OnCycle "A1" :=
    .head (reads_of_scanned first (by decide +kernel))
      (.single (reads_of_scanned second (by decide +kernel)))
  rcases (reported_cycles_are_named canonical).1 "A1" (isSome_cycleThrough?.mpr cycle) with
    ⟨marked, steps⟩
  exact ⟨canonical, plain, marked, steps.lift (fun read => read)
    fun reader read step => step.consults (plain reader)⟩

/-- A formula that names its own cell and never looks it up is reported all the
same. -/
theorem reported_alone_of_named {formula : String}
    (named : id ∈ Formula.precedents formula)
    (never : ∀ lookup, ¬Formula.Consults formula lookup id) :
    let grid := Grid.ofList [(id, .ofInput formula)]
    ((ofGrid grid).cycleThrough? id).isSome ∧ ¬Relation.TransGen grid.Consults id id := by
  intro grid
  have cells (other : String) : grid.get? other =
      if id = other then some (.ofInput formula) else none := by
    simp [grid, Grid.ofList, Grid.get?_insert]
  have starts := Formula.isFormula_of_mem_precedents named
  have found : grid.formula? id = some formula := by
    rw [formula?, cells, if_pos rfl, Option.bind_some, Cell.ofInput, if_pos starts]
    exact Option.filter_eq_some_iff.mpr ⟨rfl, starts⟩
  have reads : (ofGrid grid).Reads id id :=
    DependencyGraph.mem_precedents_ofGrid.mpr ⟨formula, found, named⟩
  refine ⟨isSome_cycleThrough?.mpr (.single reads), fun chain => ?_⟩
  rcases Relation.TransGen.tail'_iff.mp chain with ⟨last, _, other, lookup, other?, consulted⟩
  by_cases here : id = last
  · subst here
    obtain rfl : formula = other := Option.some.inj (found.symm.trans other?)
    exact never lookup consulted
  · rw [formula?, cells, if_neg here] at other?
    cases other?

/-- So is a replacement whose literals name its own cell: only the first operand is
looked up. -/
theorem reported_alone_of_literal {formula : String}
    {arguments target find replacement : List Char} (starts : isFormula formula = true)
    (call : Formula.readCall? (formula.toList.drop 1) = some (.findAndReplace, arguments))
    (parts : Text.split ',' arguments = [target, find, replacement])
    (named : id ∈ Formula.scannedIds formula.toList) (other : id ≠ Formula.operandId target) :
    let grid := Grid.ofList [(id, .ofInput formula)]
    ((ofGrid grid).cycleThrough? id).isSome ∧ ¬Relation.TransGen grid.Consults id id := by
  apply reported_alone_of_named ((Formula.mem_precedents starts).mpr named)
  intro lookup consulted
  rw [Formula.Consults, Formula.inquire, if_pos starts, call] at consulted
  change id ∈ (Formula.inquireReplacement arguments).asked lookup at consulted
  rw [Formula.asked_inquireReplacement parts] at consulted
  exact other (List.mem_singleton.mp consulted)

example :
    let grid := Grid.ofList [("A1", .ofInput "=FIND_AND_REPLACE(B1,\"A1\",\"x\")")]
    ((ofGrid grid).cycleThrough? "A1").isSome ∧ ¬Relation.TransGen grid.Consults "A1" "A1" := by
  have call : Formula.readCall? ("=FIND_AND_REPLACE(B1,\"A1\",\"x\")".toList.drop 1) =
      some (.findAndReplace, "B1,\"A1\",\"x\"".toList) := by decide +kernel
  have parts : Text.split ',' "B1,\"A1\",\"x\"".toList =
      ["B1".toList, "\"A1\"".toList, "\"x\"".toList] := by decide +kernel
  exact reported_alone_of_literal (by decide) call parts (by decide +kernel) (by decide +kernel)

/-- Two bare references to one another are reported, though evaluation looks up
nothing for a formula that calls no function. -/
theorem bare_references_are_reported :
    let grid := Grid.ofList [("A1", .ofInput "=B1"), ("B1", .ofInput "=A1")]
    (∀ id, grid.Holds id → canonicalId id = id) ∧
      ((ofGrid grid).cycleThrough? "A1").isSome ∧
      (grid.recalculate .full).value? "A1" = some FormulaError.circular.token ∧
      ¬Relation.TransGen grid.Consults "A1" "A1" ∧
      ∀ lookup, Formula.evaluate "=B1" lookup = FormulaError.invalid.token := by
  intro grid
  have cells (id : String) : grid.get? id =
      if "B1" = id then some (.ofInput "=A1")
      else if "A1" = id then some (.ofInput "=B1") else none := by
    simp [grid, Grid.ofList, Grid.get?_insert]
  have canonical : ∀ id, grid.Holds id → canonicalId id = id :=
    canonical_ofList (by decide +kernel)
  have first : grid.formula? "A1" = some "=B1" := by
    rw [formula?, cells]
    rfl
  have second : grid.formula? "B1" = some "=A1" := by
    rw [formula?, cells]
    rfl
  have cycle : (ofGrid grid).OnCycle "A1" :=
    .head (reads_of_scanned first (by decide +kernel))
      (.single (reads_of_scanned second (by decide +kernel)))
  have starts : isFormula "=B1" = true := by decide
  have noCall : Formula.readCall? ("=B1".toList.drop 1) = none := by decide +kernel
  refine ⟨canonical, isSome_cycleThrough?.mpr cycle, circular_of_onCycle cycle, fun chain => ?_,
    fun lookup => ?_⟩
  · rcases Relation.TransGen.head'_iff.mp chain with
      ⟨read, ⟨formula, lookup, found, consulted⟩, _⟩
    obtain rfl : "=B1" = formula := Option.some.inj (first.symm.trans found)
    rw [Formula.Consults, Formula.inquire, if_pos starts, noCall] at consulted
    cases consulted
  · rw [Formula.evaluate, Formula.evaluate?, if_pos starts, noCall]

end Grid
end Worksheet
