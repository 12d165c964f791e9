import Mathlib

/-!
# First occurrences

`List.eraseDups` keeps the first of equal items. What it keeps is distinct, a new item at the end of
a list comes last, and what occurs first comes first.

## Main statements

* `eraseDups_concat`: the first occurrences with one more item at the end.
* `nodup_eraseDups`: first occurrences are distinct.
* `pair_sublist_eraseDups`: the order of first occurrences.
-/

namespace RecordSchema

variable {α : Type} [BEq α] [LawfulBEq α]

theorem eraseDups_concat (l : List α) (a : α) :
    (l ++ [a]).eraseDups = if a ∈ l then l.eraseDups else l.eraseDups ++ [a] := by
  rw [List.eraseDups_append]
  split
  · rename_i hmem
    simp [List.removeAll, hmem]
  · rename_i hmem
    simp [List.removeAll, hmem, List.eraseDups_cons]

theorem nodup_eraseDups (l : List α) : l.eraseDups.Nodup := by
  induction l using List.reverseRecOn with
  | nil => simp
  | append_singleton l a ih =>
    rw [eraseDups_concat]
    split
    · exact ih
    · rename_i hmem
      exact ih.append (List.nodup_singleton a) (by simpa using hmem)

/-- What occurs first comes first. -/
theorem pair_sublist_eraseDups {front back : List α} {a b : α} (hne : b ≠ a) (hfront : b ∉ front)
    (hback : b ∈ back) : [a, b].Sublist (front ++ a :: back).eraseDups := by
  have hsplit : front ++ a :: back = (front ++ [a]) ++ back := by simp
  rw [hsplit, List.eraseDups_append]
  have hfirst : a ∈ (front ++ [a]).eraseDups := by simp
  have hsecond : b ∈ (back.removeAll (front ++ [a])).eraseDups := by
    simp [List.removeAll, hback, hfront, hne]
  exact (List.singleton_sublist.2 hfirst).append (List.singleton_sublist.2 hsecond)

end RecordSchema
