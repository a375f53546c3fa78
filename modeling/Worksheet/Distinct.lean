import Std.Data.HashSet

namespace Worksheet

/-!
Lists without repetitions.
-/

/-- The first occurrences of the members of a list, in order. -/
def distinct [BEq α] [Hashable α] (items : List α) : List α :=
  let (_, kept) := items.foldl
    (fun ((seen, kept) : Std.HashSet α × List α) item =>
      if seen.contains item then (seen, kept) else (seen.insert item, item :: kept))
    (∅, [])
  kept.reverse

section

variable [BEq α] [Hashable α] [LawfulBEq α] [LawfulHashable α]

/-- The invariant of the scan: what was seen is what was kept, the last first,
and what comes is kept without what was seen. -/
private theorem foldl_distinct (items : List α) (seen : Std.HashSet α) (kept : List α)
    (same : ∀ item, item ∈ seen ↔ item ∈ kept) :
    (items.foldl
      (fun ((seen, kept) : Std.HashSet α × List α) item =>
        if seen.contains item then (seen, kept) else (seen.insert item, item :: kept))
      (seen, kept)).2 = (items.removeAll kept).eraseDups.reverse ++ kept := by
  induction items generalizing seen kept with
  | nil => rfl
  | cons head items ih =>
    simp only [List.foldl_cons]
    by_cases present : seen.contains head = true
    · have member : kept.elem head = true := List.elem_iff.mpr ((same head).mp present)
      have skipped : (head :: items).removeAll kept = items.removeAll kept :=
        List.filter_cons_of_neg (by rw [member]; decide)
      rw [if_pos present, ih seen kept same, skipped]
    · have absent : kept.elem head = false := by
        rw [← Bool.not_eq_true, List.elem_iff]
        exact fun member => present ((same head).mpr member)
      have taken : (head :: items).removeAll kept = head :: items.removeAll kept :=
        List.filter_cons_of_pos (by rw [absent]; rfl)
      have sameAfter : ∀ item, item ∈ seen.insert head ↔ item ∈ head :: kept := fun item => by
        rw [Std.HashSet.mem_insert, beq_iff_eq, same item, List.mem_cons]
        exact or_congr_left eq_comm
      have rest : (items.removeAll kept).filter (fun item => !item == head) =
          items.removeAll (head :: kept) := by
        rw [List.removeAll_cons, List.removeAll, List.removeAll, List.filter_filter,
          List.filter_filter]
        exact List.filter_congr fun item _ => Bool.and_comm _ _
      rw [if_neg present, ih (seen.insert head) (head :: kept) sameAfter, taken,
        List.eraseDups_cons, rest, List.reverse_cons, List.append_assoc, List.singleton_append]

theorem distinct_eq_eraseDups (items : List α) : distinct items = items.eraseDups := by
  have scanned := foldl_distinct items ∅ [] fun item => by simp
  have all : items.removeAll [] = items := List.filter_eq_self.mpr fun _ _ => rfl
  rw [all, List.append_nil] at scanned
  exact (congrArg List.reverse scanned).trans (List.reverse_reverse _)

@[simp] theorem mem_distinct {item : α} {items : List α} :
    item ∈ distinct items ↔ item ∈ items := by
  rw [distinct_eq_eraseDups, List.mem_eraseDups]

theorem nodup_distinct (items : List α) : (distinct items).Nodup := by
  rw [distinct_eq_eraseDups]
  induction size : items.length using Nat.strongRecOn generalizing items with
  | ind length ih =>
    cases items with
    | nil => exact List.nodup_nil
    | cons head items =>
      have shorter : (items.filter fun item => !item == head).length < length := by
        rw [← size]
        exact Nat.lt_succ_of_le (List.length_filter_le _ items)
      rw [List.eraseDups_cons, List.nodup_cons, List.mem_eraseDups]
      refine ⟨fun member => ?_, ih _ shorter _ rfl⟩
      have different := (List.mem_filter.mp member).2
      rw [beq_self_eq_true] at different
      cases different

theorem distinct_eq_singleton {item : α} {items : List α} (member : item ∈ items)
    (same : ∀ other ∈ items, other = item) : distinct items = [item] := by
  have nodup := nodup_distinct items
  have equal : ∀ other ∈ distinct items, other = item :=
    fun other listed => same other (mem_distinct.mp listed)
  cases shape : distinct items with
  | nil =>
    rw [← mem_distinct, shape] at member
    cases member
  | cons first rest =>
    rw [shape] at nodup equal
    rw [equal first List.mem_cons_self]
    cases rest with
    | nil => rfl
    | cons second rest =>
      have repeated : second = first := by
        rw [equal second (by simp), equal first List.mem_cons_self]
      rw [repeated] at nodup
      exact absurd List.mem_cons_self (List.nodup_cons.mp nodup).1

end

end Worksheet
