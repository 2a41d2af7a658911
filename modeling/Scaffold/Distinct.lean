import Scaffold.Text.CodePoint

/-!
# First occurrences

`distinctOn key` keeps, of the items with one key, the first. What it keeps stays in order and has
pairwise different keys (`distinctOn_sublist`, `pairwise_distinctOn`).

It is used wherever the program passes over what it has already seen: columns, entries of a
structure, imports, names.
-/

namespace Scaffold

variable {α : Type}

/-- The items whose key no earlier item has. -/
def distinctOn (key : α → Text) : List α → List α
  | [] => []
  | x :: rest => x :: (distinctOn key rest).filter fun y => key y ≠ key x

/-- The texts that did not occur before. -/
def distinct (ts : List Text) : List Text := distinctOn id ts

theorem distinctOn_sublist (key : α → Text) (xs : List α) :
    (distinctOn key xs).Sublist xs := by
  induction xs with
  | nil => exact List.Sublist.slnil
  | cons x rest ih => exact (List.filter_sublist.trans ih).cons_cons x

theorem pairwise_distinctOn (key : α → Text) (xs : List α) :
    (distinctOn key xs).Pairwise fun x y => key x ≠ key y := by
  induction xs with
  | nil => exact List.Pairwise.nil
  | cons x rest ih =>
    refine List.Pairwise.cons (fun y hy => ?_) (ih.sublist List.filter_sublist)
    have hne : key y ≠ key x := by simpa using (List.mem_filter.1 hy).2
    exact hne.symm

end Scaffold
