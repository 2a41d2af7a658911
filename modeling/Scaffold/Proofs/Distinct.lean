import Scaffold.Distinct

/-!
# What is kept of repeated items

`distinctOn` keeps the first item of every key. So what it keeps is found as in the whole list
(`find?_distinctOn`), its keys are those of the list without repetitions (`map_distinctOn`), and
later items with known keys change nothing (`distinctOn_append_of_known`). Of texts, it is the same
whether they are rewritten before or after, if nothing falls together (`distinct_map`).
-/

namespace Scaffold

variable {α : Type}

/-- Items can be left out by their keys before or after. -/
theorem distinctOn_filter (key : α → Text) (p : Text → Bool) (xs : List α) :
    distinctOn key (xs.filter fun x => p (key x)) =
      (distinctOn key xs).filter fun x => p (key x) := by
  induction xs with
  | nil => rfl
  | cons x rest ih =>
    rw [distinctOn, List.filter_cons, List.filter_cons]
    by_cases hx : p (key x) = true
    · rw [if_pos hx, if_pos hx, distinctOn, ih, List.filter_filter, List.filter_filter]
      simp only [Bool.and_comm]
    · -- No item that stays has the key of the item that is left out.
      rw [if_neg hx, if_neg hx, ih, List.filter_filter]
      refine List.filter_congr fun y _ => ?_
      by_cases hy : p (key y) = true
      · have hne : key y ≠ key x := fun heq => hx (heq ▸ hy)
        simp [hy, hne]
      · simp [hy]

/-- The item of a key is the first one in the list. -/
theorem find?_distinctOn (key : α → Text) (k : Text) (xs : List α) :
    (distinctOn key xs).find? (fun x => key x = k) = xs.find? fun x => key x = k := by
  induction xs with
  | nil => rfl
  | cons x rest ih =>
    rw [distinctOn, List.find?_cons, List.find?_cons]
    by_cases hx : key x = k
    · simp [hx]
    · simp only [hx, decide_false]
      rw [← ih, List.find?_filter]
      congr 1
      funext y
      by_cases hy : key y = k
      · simp [hy, Ne.symm hx]
      · simp [hy]

/-- What is kept is found by its key. -/
theorem find?_of_mem_distinctOn {key : α → Text} {xs : List α} {x : α}
    (h : x ∈ distinctOn key xs) :
    (distinctOn key xs).find? (fun y => key y = key x) = some x := by
  obtain ⟨before, after, hsplit⟩ := List.append_of_mem h
  have hdistinct := pairwise_distinctOn key xs
  rw [hsplit] at hdistinct ⊢
  refine List.find?_eq_some_iff_append.mpr ⟨by simp, before, after, rfl, fun y hy => ?_⟩
  -- No item before it has the same key.
  have hne := (List.pairwise_append.mp hdistinct).2.2 y hy x (List.mem_cons_self ..)
  simpa using hne

/-- An item is kept if it is the first one of its key. -/
theorem mem_distinctOn_iff {key : α → Text} {xs : List α} {x : α} :
    x ∈ distinctOn key xs ↔ xs.find? (fun y => key y = key x) = some x := by
  constructor
  · intro hx
    rw [← find?_distinctOn]
    exact find?_of_mem_distinctOn hx
  · intro hfirst
    rw [← find?_distinctOn] at hfirst
    exact List.mem_of_find?_eq_some hfirst

/-- The keys of what is kept are the keys without repetitions. -/
theorem map_distinctOn (key : α → Text) :
    ∀ xs : List α, (distinctOn key xs).map key = (xs.map key).eraseDups
  | [] => rfl
  | x :: rest => by
    have hlater := map_distinctOn key (rest.filter fun y => !key y == key x)
    rw [distinctOn_filter key fun k => !k == key x] at hlater
    rw [distinctOn, List.map_cons, List.map_cons, List.eraseDups_cons, List.filter_map]
    refine congrArg (key x :: ·) (Eq.trans ?_ hlater)
    refine congrArg (List.map key) (List.filter_congr fun y _ => ?_)
    by_cases hy : key y = key x <;> simp [hy]
  termination_by xs => xs.length
  decreasing_by
    exact Nat.lt_succ_of_le (List.length_filter_le ..)

/-- No key is lost, and none is new. -/
theorem mem_map_distinctOn_iff {key : α → Text} {xs : List α} {k : Text} :
    k ∈ (distinctOn key xs).map key ↔ k ∈ xs.map key := by
  rw [map_distinctOn, List.mem_eraseDups]

/-- No key is kept twice. -/
theorem nodup_map_distinctOn (key : α → Text) (xs : List α) :
    ((distinctOn key xs).map key).Nodup :=
  List.pairwise_map.mpr (pairwise_distinctOn key xs)

/-- Of two lists one after the other, the second adds what has a new key. -/
theorem distinctOn_append (key : α → Text) (xs ys : List α) :
    distinctOn key (xs ++ ys) =
      distinctOn key xs ++ (distinctOn key ys).filter fun y => key y ∉ xs.map key := by
  induction xs with
  | nil => exact (List.filter_eq_self.mpr fun y _ => by simp).symm
  | cons x rest ih =>
    rw [List.cons_append, distinctOn, distinctOn, ih, List.filter_append, List.filter_filter]
    simp

/-- Further items change nothing if their keys are there already. -/
theorem distinctOn_append_of_known {key : α → Text} {xs ys : List α}
    (h : ∀ y ∈ ys, key y ∈ xs.map key) : distinctOn key (xs ++ ys) = distinctOn key xs := by
  have hnone : (distinctOn key ys).filter (fun y => key y ∉ xs.map key) = [] := by
    refine List.filter_eq_nil_iff.mpr fun y hy => ?_
    have hknown := h y ((distinctOn_sublist key ys).subset hy)
    simpa using hknown
  rw [distinctOn_append, hnone, List.append_nil]

/-! ## Texts -/

/-- For texts this is erasing duplicates. -/
theorem distinct_eq_eraseDups (ts : List Text) : distinct ts = ts.eraseDups := by
  have hkeys := map_distinctOn id ts
  rwa [List.map_id, List.map_id] at hkeys

theorem nodup_eraseDups (ts : List Text) : ts.eraseDups.Nodup := by
  rw [← distinct_eq_eraseDups]
  exact pairwise_distinctOn id ts

/-- What is told apart by keys in the same way is kept alike. -/
theorem distinctOn_congr {key key' : α → Text} (h : ∀ x y, key x = key y ↔ key' x = key' y)
    (xs : List α) : distinctOn key xs = distinctOn key' xs := by
  induction xs with
  | nil => rfl
  | cons x rest ih => simp only [distinctOn, ih, ne_eq, h]

/-- Texts can be rewritten before or after, if what they become tells them apart. -/
theorem distinct_map {f : Text → Text} (hf : Function.Injective f) (ts : List Text) :
    distinct (ts.map f) = ts.eraseDups.map f := by
  have hkeys : distinctOn f ts = distinct ts := distinctOn_congr (fun _ _ => hf.eq_iff) ts
  rw [distinct_eq_eraseDups, ← map_distinctOn, hkeys, distinct_eq_eraseDups]

/-- No text is lost, and none is new. -/
theorem mem_distinct {ts : List Text} {t : Text} : t ∈ distinct ts ↔ t ∈ ts := by
  have hkeys : t ∈ (distinctOn id ts).map id ↔ t ∈ ts.map id := mem_map_distinctOn_iff
  simpa [distinct] using hkeys

/-- One more text is kept at the end if it is new. -/
theorem distinct_concat (ts : List Text) (t : Text) :
    distinct (ts ++ [t]) = if t ∈ ts then distinct ts else distinct ts ++ [t] := by
  unfold distinct
  rw [distinctOn_append]
  by_cases h : t ∈ ts <;> simp [distinctOn, h]

end Scaffold
