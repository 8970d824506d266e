import Mathlib.Data.List.DropRight
import Mathlib.Data.List.Induction

/-!
# Operations that start afresh

A thing is built up by operations that each bring some items.  Most of them add
their items to those that are there, but some start the thing afresh with theirs.
So only the last operation of that kind and those after it count.
-/

namespace FormRules

variable {α β : Type} (fresh : α → Bool) (brings : α → List β)

/-- The items that the last operation to start afresh has brought, and then those
of the operations after it. -/
def sinceFresh (ops : List α) : List β :=
  (ops.reverse.find? fresh).elim [] brings ++ (ops.rtakeWhile fun op => !fresh op).flatMap brings

variable {fresh}

/-- An operation that starts afresh leaves its own items. -/
theorem sinceFresh_concat_of_fresh {op : α} (h : fresh op = true) (ops : List α) :
    sinceFresh fresh brings (ops ++ [op]) = brings op := by
  have hfind : (ops ++ [op]).reverse.find? fresh = some op := by
    rw [List.reverse_concat, List.find?_cons_of_pos h]
  have htake : (ops ++ [op]).rtakeWhile (fun op => !fresh op) = [] := by
    rw [List.rtakeWhile_concat, if_neg (by simp [h])]
  rw [sinceFresh, hfind, htake, List.flatMap_nil, List.append_nil]
  rfl

/-- Any other operation adds its items at the end. -/
theorem sinceFresh_concat_of_not_fresh {op : α} (h : fresh op = false) (ops : List α) :
    sinceFresh fresh brings (ops ++ [op]) = sinceFresh fresh brings ops ++ brings op := by
  have hfind : (ops ++ [op]).reverse.find? fresh = ops.reverse.find? fresh := by
    rw [List.reverse_concat, List.find?_cons_of_neg (by simp [h])]
  have htake : (ops ++ [op]).rtakeWhile (fun op => !fresh op) =
      ops.rtakeWhile (fun op => !fresh op) ++ [op] := by
    rw [List.rtakeWhile_concat, if_pos (by simp [h])]
  rw [sinceFresh, sinceFresh, hfind, htake, List.flatMap_append, List.append_assoc]
  simp

variable {brings} {σ : Type} {step : σ → α → σ} (made : List β → σ)

/-- A thing is made of the items since it was started afresh when the operations
that start it afresh make it of their items, and the others of these items behind
those that it was made of. -/
theorem foldl_eq_made_sinceFresh
    (hfresh : ∀ s op, fresh op = true → step s op = made (brings op))
    (hadds : ∀ items op, fresh op = false → step (made items) op = made (items ++ brings op))
    (ops : List α) : ops.foldl step (made []) = made (sinceFresh fresh brings ops) := by
  induction ops using List.reverseRecOn with
  | nil => rfl
  | append_singleton ops op ih =>
      rw [List.foldl_append, ih, List.foldl_cons, List.foldl_nil]
      cases hop : fresh op with
      | true => rw [sinceFresh_concat_of_fresh brings hop, hfresh _ op hop]
      | false => rw [sinceFresh_concat_of_not_fresh brings hop, hadds _ op hop]

end FormRules
