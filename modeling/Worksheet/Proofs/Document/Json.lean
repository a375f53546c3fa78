import Worksheet.Document.Json
import Worksheet.Proofs.Calendar.Instant
import Worksheet.Proofs.Json.Number

namespace Worksheet

/-!
Documents that are written and read.  Every part of a document is read back
from its value, from the settings of a format up to the document; what this
needs of the doubles in it and of the time of its last change is carried along.
-/

open Json (Faithful ReadsBack)

namespace Alignment

theorem ofName?_name (align : Alignment) : ofName? align.name = some align := by
  cases align <;> rfl

end Alignment

namespace ContentType

theorem ofName?_name (type : ContentType) : ofName? type.name = some type := by
  cases type <;> rfl

end ContentType

/-! ## Cells -/

namespace CellFormat

/-- The doubles in a format. -/
def doubles (format : CellFormat) : List Float :=
  format.fontSize.toList

/-- A format as a record. -/
def slots (format : CellFormat) : List (String × Option Json) :=
  [("bold", format.bold.map .bool), ("italic", format.italic.map .bool),
    ("fontSize", format.fontSize.map .ofFloat), ("color", format.color.map .ofString),
    ("align", format.align.map fun align => .ofString align.name)]

theorem toJson_eq (format : CellFormat) : format.toJson = .ofFields (Json.filled format.slots) := by
  simp only [toJson, slots, Json.filled_cons_map, Json.filled_nil, List.append_assoc,
    List.append_nil]

variable {format : CellFormat}

theorem faithful (readsBack : ∀ number ∈ format.doubles, ReadsBack number) :
    Faithful ofJson? toJson format := by
  have truths (value : Option Bool) : ∀ a ∈ value, Faithful Json.bool? .bool a :=
    fun a _ => Json.faithful_bool a
  have size : ∀ a ∈ format.fontSize, Faithful Json.float? .ofFloat a :=
    fun a member => Json.faithful_float (readsBack a (Option.mem_toList.mpr member))
  have color : ∀ a ∈ format.color, Faithful Json.string? .ofString a :=
    fun a _ => Json.faithful_string a
  have align : ∀ a ∈ format.align, Faithful (Json.word? Alignment.ofName?)
      (fun align => .ofString align.name) a :=
    fun a _ => Json.faithful_word a.ofName?_name
  constructor
  · rw [toJson_eq]
    refine Json.wellFormed_filled ?_
    simp only [slots, List.forall_mem_cons]
    exact ⟨Json.wellFormed_slot (truths _), Json.wellFormed_slot (truths _),
      Json.wellFormed_slot size, Json.wellFormed_slot color, Json.wellFormed_slot align,
      List.forall_mem_nil _⟩
  · have distinct : (format.slots.map Prod.fst).Nodup := by simp [slots]
    have record := Json.record?_filled distinct
    rw [toJson_eq, ofJson?]
    simp only [slots, List.map_cons, List.map_nil] at record ⊢
    simp only [record, Option.bind_eq_bind, Option.bind_some,
      Json.optional?_map rfl (truths _), Json.optional?_map rfl size,
      Json.optional?_map rfl color, Json.optional?_map rfl align]
    rfl

end CellFormat

namespace Cell

/-- The doubles in a cell. -/
def doubles (cell : Cell) : List Float :=
  cell.format.toList.flatMap CellFormat.doubles

/-- A cell as a record. -/
def slots (cell : Cell) : List (String × Option Json) :=
  [("value", cell.value.map .ofString), ("formula", cell.formula.map .ofString),
    ("type", cell.type.map fun type => .ofString type.name),
    ("format", cell.format.map CellFormat.toJson)]

theorem toJson_eq (cell : Cell) : cell.toJson = .ofFields (Json.filled cell.slots) := by
  simp only [toJson, slots, Json.filled_cons_map, Json.filled_nil, List.append_assoc,
    List.append_nil]

variable {cell : Cell}

theorem faithful (readsBack : ∀ number ∈ cell.doubles, ReadsBack number) :
    Faithful ofJson? toJson cell := by
  have texts (value : Option String) : ∀ a ∈ value, Faithful Json.string? .ofString a :=
    fun a _ => Json.faithful_string a
  have type : ∀ a ∈ cell.type, Faithful (Json.word? ContentType.ofName?)
      (fun type => .ofString type.name) a :=
    fun a _ => Json.faithful_word a.ofName?_name
  have format : ∀ a ∈ cell.format, Faithful CellFormat.ofJson? CellFormat.toJson a :=
    fun a present => CellFormat.faithful fun number member =>
      readsBack number (List.mem_flatMap.mpr ⟨a, Option.mem_toList.mpr present, member⟩)
  constructor
  · rw [toJson_eq]
    refine Json.wellFormed_filled ?_
    simp only [slots, List.forall_mem_cons]
    exact ⟨Json.wellFormed_slot (texts _), Json.wellFormed_slot (texts _),
      Json.wellFormed_slot type, Json.wellFormed_slot format, List.forall_mem_nil _⟩
  · have distinct : (cell.slots.map Prod.fst).Nodup := by simp [slots]
    have record := Json.record?_filled distinct
    rw [toJson_eq, ofJson?]
    simp only [slots, List.map_cons, List.map_nil] at record ⊢
    simp only [record, Option.bind_eq_bind, Option.bind_some, Json.optional?_map rfl (texts _),
      Json.optional?_map rfl type, Json.optional?_map rfl format]
    rfl

end Cell

/-! ## Grids and dimensions -/

namespace Grid

/-- The doubles in a grid. -/
def doubles (grid : Grid) : List Float :=
  grid.toList.flatMap fun (_, cell) => cell.doubles

variable {grid : Grid}

/-- A grid is that of its cells. -/
theorem ofList_toList (grid : Grid) : ofList grid.toList = grid := by
  have cells (entries : List (String × Cell)) (start : Grid) :
      (entries.foldl (fun grid (id, cell) => grid.insert id cell) start).cells =
        entries.foldl (fun cells (id, cell) => cells.insert id cell) start.cells := by
    induction entries generalizing start with
    | nil => rfl
    | cons entry entries ih => exact ih _
  apply Grid.ext
  rw [ofList, cells]
  exact Json.foldl_insert_toList grid.cells

theorem faithful (readsBack : ∀ number ∈ grid.doubles, ReadsBack number) :
    Faithful ofJson? toJson grid := by
  have entries : Faithful (Json.entries? Cell.ofJson?) (Json.ofEntries Cell.toJson) grid.toList :=
    Json.faithful_entries fun entry listed => Cell.faithful fun number member =>
      readsBack number (List.mem_flatMap.mpr ⟨entry, listed, member⟩)
  refine ⟨entries.wellFormed, ?_⟩
  have reads : grid.toJson.entries? Cell.ofJson? = some grid.toList := entries.reads
  rw [ofJson?, reads, Option.map_some, ofList_toList]

end Grid

namespace Dimensions

/-- The doubles in dimensions. -/
def doubles (dimensions : Dimensions) : List Float :=
  dimensions.toList.map Prod.snd

variable {dimensions : Dimensions}

theorem faithful (readsBack : ∀ number ∈ doubles dimensions, ReadsBack number) :
    Faithful ofJson? toJson dimensions := by
  have entries : Faithful (Json.entries? Json.float?) (Json.ofEntries .ofFloat)
      dimensions.toList :=
    Json.faithful_entries fun entry listed =>
      Json.faithful_float (readsBack entry.2 (List.mem_map_of_mem listed))
  refine ⟨entries.wellFormed, ?_⟩
  have reads : (toJson dimensions).entries? Json.float? = some dimensions.toList := entries.reads
  rw [ofJson?, reads, Option.map_some, Json.foldl_insert_toList]

end Dimensions

/-! ## Documents -/

theorem Instant.faithful {instant : Instant} (regular : instant.IsRegular) :
    Faithful Instant.ofJson? (fun instant => .ofString instant.text) instant := by
  refine ⟨.string (some instant.text), ?_⟩
  rw [Instant.ofJson?, (Json.faithful_string instant.text).reads, Option.bind_some, Instant.text,
    String.toList_ofList]
  exact Instant.parse?_chars regular

namespace Document

/-- The doubles in a document: sizes of fonts, widths of columns and heights of
rows. -/
def doubles (document : Document) : List Float :=
  document.data.doubles ++ document.columnWidths.toList.flatMap Dimensions.doubles ++
    document.rowHeights.toList.flatMap Dimensions.doubles

/-- A document as a record. -/
def slots (document : Document) : List (String × Option Json) :=
  [("id", some (.ofNat document.id.toNat)), ("name", document.name.map .ofString),
    ("data", some document.data.toJson),
    ("columnWidths", document.columnWidths.map Dimensions.toJson),
    ("rowHeights", document.rowHeights.map Dimensions.toJson),
    ("lastModified", document.lastModified.map fun instant => .ofString instant.text)]

theorem toJson_eq (document : Document) :
    document.toJson = .ofFields (Json.filled document.slots) := by
  simp only [toJson, slots, Json.filled_cons_some, Json.filled_cons_map, Json.filled_nil,
    List.append_assoc, List.cons_append, List.append_nil]

theorem uint64?_ofNat (id : UInt64) : (Json.ofNat id.toNat).uint64? = some id := by
  rw [Json.ofNat, Json.uint64?, Json.toUInt64?_ofNat id.toNat_lt, UInt64.ofNat_toNat]

variable {document : Document}

/-- A document is read back from its value. -/
theorem faithful (readsBack : ∀ number ∈ document.doubles, ReadsBack number)
    (regular : ∀ instant ∈ document.lastModified, instant.IsRegular) :
    Faithful ofJson? toJson document := by
  have name : ∀ a ∈ document.name, Faithful Json.string? .ofString a :=
    fun a _ => Json.faithful_string a
  have data : Faithful Grid.ofJson? Grid.toJson document.data :=
    Grid.faithful fun number member =>
      readsBack number (List.mem_append_left _ (List.mem_append_left _ member))
  have widths : ∀ a ∈ document.columnWidths, Faithful Dimensions.ofJson? Dimensions.toJson a :=
    fun a present => Dimensions.faithful fun number member =>
      readsBack number (List.mem_append_left _ (List.mem_append_right _
        (List.mem_flatMap.mpr ⟨a, Option.mem_toList.mpr present, member⟩)))
  have heights : ∀ a ∈ document.rowHeights, Faithful Dimensions.ofJson? Dimensions.toJson a :=
    fun a present => Dimensions.faithful fun number member =>
      readsBack number (List.mem_append_right _
        (List.mem_flatMap.mpr ⟨a, Option.mem_toList.mpr present, member⟩))
  have modified : ∀ a ∈ document.lastModified, Faithful Instant.ofJson?
      (fun instant => .ofString instant.text) a :=
    fun a present => Instant.faithful (regular a present)
  constructor
  · rw [toJson_eq]
    refine Json.wellFormed_filled ?_
    simp only [slots, List.forall_mem_cons, Option.mem_def, Option.some.injEq, forall_eq']
    exact ⟨.number (Json.isNumber_ofNat _), Json.wellFormed_slot name, data.wellFormed,
      Json.wellFormed_slot widths, Json.wellFormed_slot heights, Json.wellFormed_slot modified,
      List.forall_mem_nil _⟩
  · have distinct : (document.slots.map Prod.fst).Nodup := by simp [slots]
    have record := Json.record?_filled distinct
    rw [toJson_eq, ofJson?]
    simp only [slots, List.map_cons, List.map_nil] at record ⊢
    simp only [record, Option.bind_eq_bind, Option.bind_some, uint64?_ofNat,
      Json.optional?_map rfl name, Json.defaulted?, data.reads, Json.optional?_map rfl widths,
      Json.optional?_map rfl heights, Json.optional?_map rfl modified]
    rfl

end Document
end Worksheet
