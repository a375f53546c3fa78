import Mathlib.Data.List.Nodup
import Std.Data.ExtTreeMap
import Worksheet.Json.Record
import Worksheet.Proofs.Json.Reader

namespace Worksheet
namespace Json

/-!
Records that are written and read.  A record is a list of slots, each with its
name and perhaps a value; empty slots are not written, and what is read is the
slots again.  Each slot is read by itself, so a record comes back if the value
of every slot does.
-/

variable {α β : Type}

/-! ## Slots -/

/-- The fields of the slots that have a value. -/
def filled (slots : List (String × Option Json)) : List (String × Json) :=
  slots.filterMap fun (name, value) => value.map (name, ·)

theorem filled_nil : filled [] = [] :=
  rfl

theorem filled_cons_some (name : String) (value : Json) (slots : List (String × Option Json)) :
    filled ((name, some value) :: slots) = (name, value) :: filled slots :=
  rfl

theorem filled_cons_map (name : String) (write : α → Json) (value : Option α)
    (slots : List (String × Option Json)) :
    filled ((name, value.map write) :: slots) = present name write value ++ filled slots := by
  cases value <;> rfl

theorem name_of_mem_filled {slots : List (String × Option Json)} {field : String × Json}
    (member : field ∈ filled slots) : field.1 ∈ slots.map Prod.fst := by
  rcases List.mem_filterMap.mp member with ⟨⟨name, value⟩, listed, filled⟩
  rcases Option.map_eq_some_iff.mp filled with ⟨_, _, rfl⟩
  exact List.mem_map_of_mem listed

/-- The fields with the name of a slot are the one that fills it. -/
theorem filter_filled {slots : List (String × Option Json)} (distinct : (slots.map Prod.fst).Nodup)
    {name : String} {value : Option Json} (member : (name, value) ∈ slots) :
    (filled slots).filter (·.1 = name) = value.toList.map (name, ·) := by
  induction slots with
  | nil => cases member
  | cons slot slots ih =>
    rcases slot with ⟨first, content⟩
    rw [List.map_cons, List.nodup_cons] at distinct
    have shape : filled ((first, content) :: slots) =
        content.toList.map (first, ·) ++ filled slots := by
      cases content <;> rfl
    rw [shape, List.filter_append]
    rcases List.mem_cons.mp member with same | later
    · cases same
      have none : (filled slots).filter (·.1 = name) = [] := by
        refine List.filter_eq_nil_iff.mpr fun field listed same => distinct.1 ?_
        rw [← of_decide_eq_true same]
        exact name_of_mem_filled listed
      rw [none, List.append_nil]
      cases value <;> simp
    · have different : first ≠ name := by
        rintro rfl
        exact distinct.1 (List.mem_map.mpr ⟨(first, value), later, rfl⟩)
      rw [ih distinct.2 later]
      cases content <;> simp [different]

theorem mapM_eq_some {read? : α → Option β} {result : α → β} {list : List α}
    (reads : ∀ a ∈ list, read? a = some (result a)) : list.mapM read? = some (list.map result) := by
  induction list with
  | nil => rfl
  | cons a rest ih =>
    rw [List.mapM_cons, reads a List.mem_cons_self,
      ih fun b member => reads b (List.mem_cons_of_mem a member)]
    rfl

/-- A record is read as the slots from which it was written. -/
theorem record?_filled {slots : List (String × Option Json)}
    (distinct : (slots.map Prod.fst).Nodup) :
    record? (slots.map Prod.fst) (ofFields (filled slots)) = some (slots.map Prod.snd) := by
  have keyed :
      ((filled slots).map fun field => (some field.1, field.2)).any (·.1.isNone) = false := by
    simp
  unfold ofFields record?
  simp only
  rw [keyed, if_neg Bool.false_ne_true, List.mapM_map]
  refine mapM_eq_some fun slot member => ?_
  rcases slot with ⟨name, value⟩
  have found := filter_filled distinct member
  have same : ((filled slots).map fun field => (some field.1, field.2)).filter
      (·.1 = some name) = value.toList.map (some name, ·) := by
    rw [List.filter_map]
    have predicate : ((fun field : Option String × Json => decide (field.1 = some name)) ∘
        fun field : String × Json => (some field.1, field.2)) =
          fun field => decide (field.1 = name) := by
      funext field
      simp
    rw [predicate, found, List.map_map]
    rfl
  simp only [Function.comp_apply, same]
  cases value <;> rfl

/-! ## Faithful readers -/

/-- Whether a value is read back from what is written for it, and that is proper
JSON. -/
structure Faithful (read? : Json → Option α) (write : α → Json) (value : α) : Prop where
  wellFormed : WellFormed (write value)
  reads : read? (write value) = some value

variable {read? : Json → Option α} {write : α → Json}

theorem faithful_bool (value : Bool) : Faithful bool? .bool value :=
  ⟨.bool value, rfl⟩

theorem faithful_string (text : String) : Faithful string? ofString text :=
  ⟨.string (some text), rfl⟩

theorem faithful_word {ofName? : String → Option α} {name : α → String} {value : α}
    (named : ofName? (name value) = some value) :
    Faithful (word? ofName?) (fun value => ofString (name value)) value :=
  ⟨.string (some (name value)), named⟩

theorem wellFormed_ofFields {fields : List (String × Json)}
    (members : ∀ field ∈ fields, WellFormed field.2) : WellFormed (ofFields fields) := by
  refine .object fun keyed member => ?_
  rcases List.mem_map.mp member with ⟨field, listed, rfl⟩
  exact members field listed

theorem wellFormed_filled {slots : List (String × Option Json)}
    (values : ∀ slot ∈ slots, ∀ value ∈ slot.2, WellFormed value) :
    WellFormed (ofFields (filled slots)) := by
  refine wellFormed_ofFields fun field member => ?_
  rcases List.mem_filterMap.mp member with ⟨slot, listed, filled⟩
  rcases Option.map_eq_some_iff.mp filled with ⟨value, content, rfl⟩
  exact values slot listed value content

/-- A slot that may be empty holds proper JSON if its value is written so. -/
theorem wellFormed_slot {value : Option α} (faithful : ∀ a ∈ value, Faithful read? write a) :
    ∀ json ∈ value.map write, WellFormed json := by
  intro json content
  rcases Option.map_eq_some_iff.mp content with ⟨a, present, rfl⟩
  exact (faithful a present).wellFormed

/-- A slot that may be empty is read as its value if the value is.  Null stands
for no value, so it must not be the text of one. -/
theorem optional?_map {value : Option α} (strict : read? .null = none)
    (faithful : ∀ a ∈ value, Faithful read? write a) :
    optional? read? (value.map write) = some value := by
  cases value with
  | none => rfl
  | some a =>
    have read := (faithful a rfl).reads
    rw [Option.map_some]
    cases shape : write a with
    | null =>
      rw [shape, strict] at read
      cases read
    | bool | number | string | array | object =>
      rw [shape] at read
      simp only [optional?, read, Option.map_some]

/-! ## Entries -/

/-- Entries as an object. -/
def ofEntries (write : α → Json) (entries : List (String × α)) : Json :=
  ofFields (entries.map fun (key, value) => (key, write value))

/-- Entries are read as they were written if the value of each is. -/
theorem faithful_entries {entries : List (String × α)}
    (faithful : ∀ entry ∈ entries, Faithful read? write entry.2) :
    Faithful (entries? read?) (ofEntries write) entries := by
  constructor
  · refine wellFormed_ofFields fun field member => ?_
    rcases List.mem_map.mp member with ⟨entry, listed, rfl⟩
    exact (faithful entry listed).wellFormed
  · have each : ∀ entry ∈ entries,
        (do return (← some entry.1, ← read? (write entry.2)) : Option (String × α)) =
          some entry := by
      intro entry member
      rw [(faithful entry member).reads]
      rfl
    unfold ofEntries ofFields entries?
    simp only [List.map_map, List.mapM_map]
    refine (mapM_eq_some each).trans ?_
    rw [List.map_id']

/-- A map is what is left when its entries are put into an empty one. -/
theorem foldl_insert_toList (map : Std.ExtTreeMap String α) :
    map.toList.foldl (fun map (key, value) => map.insert key value) ∅ = map := by
  have many (entries : List (String × α)) (start : Std.ExtTreeMap String α) :
      entries.foldl (fun map (key, value) => map.insert key value) start =
        start.insertMany entries := by
    induction entries generalizing start with
    | nil => rfl
    | cons entry entries ih => rw [List.foldl_cons, ih, Std.ExtTreeMap.insertMany_cons]
  rw [many]
  refine Std.ExtTreeMap.ext_getElem? fun key => ?_
  cases found : map[key]? with
  | some value =>
    exact Std.ExtTreeMap.getElem?_insertMany_list_of_mem Std.ReflCmp.compare_self
      Std.ExtTreeMap.distinct_keys_toList
      (Std.ExtTreeMap.mem_toList_iff_getElem?_eq_some.mpr found)
  | none =>
    have absent : (map.toList.map Prod.fst).contains key = false := by
      rw [Std.ExtTreeMap.map_fst_toList_eq_keys, Std.ExtTreeMap.contains_keys]
      rw [← Std.ExtTreeMap.isSome_getElem?_eq_contains, found]
      rfl
    rw [Std.ExtTreeMap.getElem?_insertMany_list_of_contains_eq_false absent]
    exact Std.ExtTreeMap.getElem?_empty

end Json
end Worksheet
