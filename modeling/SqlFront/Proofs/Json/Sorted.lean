import Mathlib.Data.List.Forall2
import SqlFront.Text.Json

/-!
# SqlFront.Proofs.Json.Sorted

Values with sorted fields.

Sorting goes into every object of a value and leaves the rest as it is. A reader that does not look
at the order of fields sees the same value.

* `Same`: equality of values without the order of fields.
* `keys_inOrder_ascend`: the keys of a sorted object.
* `same_sorted`: sorting keeps the value, by induction on it.
-/

namespace SqlFront
namespace Json

/-- The same value, up to the order of the fields in each object. -/
inductive Same : Json → Json → Prop
  | text (value : String) : Same (.text value) (.text value)
  | array {items items' : List Json} :
      List.Forall₂ Same items items' → Same (.array items) (.array items')
  | object {fields fields' reordered : List (String × Json)} :
      fields.map Prod.fst = fields'.map Prod.fst →
      List.Forall₂ Same (fields.map Prod.snd) (fields'.map Prod.snd) →
      fields'.Perm reordered → Same (.object fields) (.object reordered)

/-! ## Order of fields -/

/-- The order in which `sorted` puts the fields of an object. -/
def inOrder (fields : List (String × Json)) : List (String × Json) :=
  fields.mergeSort fun a b => decide (a.1 ≤ b.1)

theorem sorted_object (fields : List (String × Json)) :
    (object fields).sorted = object (inOrder (sortedFields fields)) := rfl

theorem sortedFields_eq_map (fields : List (String × Json)) :
    sortedFields fields = fields.map fun field => (field.1, field.2.sorted) := by
  induction fields with
  | nil => rfl
  | cons field fields ih => rw [sortedFields, ih, List.map_cons]

theorem keys_sortedFields (fields : List (String × Json)) :
    (sortedFields fields).map Prod.fst = fields.map Prod.fst := by
  simp [sortedFields_eq_map]

theorem keys_inOrder_perm (fields : List (String × Json)) :
    ((inOrder fields).map Prod.fst).Perm (fields.map Prod.fst) :=
  (List.mergeSort_perm _ _).map Prod.fst

/-- Different keys ascend. -/
theorem keys_inOrder_ascend {fields : List (String × Json)} (h : (fields.map Prod.fst).Nodup) :
    ((inOrder fields).map Prod.fst).Pairwise (· < ·) := by
  have hle : (inOrder fields).Pairwise fun a b => decide (a.1 ≤ b.1) = true := by
    apply List.pairwise_mergeSort
    · simpa using fun _ _ _ _ _ _ => String.le_trans
    · simpa using fun a _ b _ => String.le_total a b
  have hdifferent := (keys_inOrder_perm fields).nodup_iff.mpr h
  rw [← List.pairwise_map (f := Prod.fst) (R := fun a b => decide (a ≤ b) = true)] at hle
  exact hle.imp₂ (fun _ _ h => Std.lt_of_le_of_ne (of_decide_eq_true h)) hdifferent

mutual

theorem same_sorted : ∀ json : Json, Same json json.sorted
  | .text value => .text value
  | .array items => .array (same_sortedItems items)
  | .object fields =>
    .object (keys_sortedFields fields).symm (same_sortedFields fields)
      (List.mergeSort_perm _ _).symm

theorem same_sortedItems : ∀ items : List Json, List.Forall₂ Same items (sortedItems items)
  | [] => .nil
  | item :: items => .cons (same_sorted item) (same_sortedItems items)

theorem same_sortedFields : ∀ fields : List (String × Json),
    List.Forall₂ Same (fields.map Prod.snd) ((sortedFields fields).map Prod.snd)
  | [] => .nil
  | (_, value) :: fields => .cons (same_sorted value) (same_sortedFields fields)

end

theorem exists_same_of_mem {fields : List (String × Json)} {key : String} {value : Json}
    (h : (key, value) ∈ inOrder (sortedFields fields)) :
    ∃ value', (key, value') ∈ fields ∧ Same value' value := by
  rw [inOrder, List.mem_mergeSort, sortedFields_eq_map] at h
  obtain ⟨⟨_, value'⟩, hfield, heq⟩ := List.mem_map.mp h
  cases heq
  exact ⟨value', hfield, same_sorted value'⟩

end Json

end SqlFront
