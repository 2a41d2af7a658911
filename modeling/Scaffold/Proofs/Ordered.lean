import Scaffold.Ordered

/-!
# Maps as functions

What a map has under a key, after maps were put on top of each other or their values replaced. A map
is a list, and lookup is recursion over it, so everything here goes by induction on the entries.

Maps that are built by `put` have no key twice (`nodup_put`). This is asked where a map is written
and read back, since a document is read by putting one entry after another.
-/

namespace Scaffold.Ordered

variable {α β : Type}

/-- A key has a value exactly if it is among the keys. -/
theorem get?_isSome_iff (m : Ordered α) (key : Text) : (get? m key).isSome ↔ key ∈ keys m := by
  induction m with
  | nil =>
    constructor <;> intro h
    · cases h
    · cases h
  | cons e rest ih =>
    obtain ⟨k, v⟩ := e
    unfold get? keys
    rw [List.map_cons, List.mem_cons]
    by_cases hk : k = key
    · rw [if_pos hk]
      exact ⟨fun _ => Or.inl hk.symm, fun _ => rfl⟩
    · rw [if_neg hk, ih]
      constructor
      · exact Or.inr
      · intro hcases
        rcases hcases with h | h
        · exact absurd h.symm hk
        · exact h

/-- An entry of a map is what is found under its key. -/
theorem get?_of_mem {m : Ordered α} (h : (keys m).Nodup) {key : Text} {value : α}
    (hmem : (key, value) ∈ m) : get? m key = some value := by
  induction m with
  | nil => cases hmem
  | cons e rest ih =>
    obtain ⟨k, v⟩ := e
    obtain ⟨hk, hrest⟩ := List.nodup_cons.mp h
    unfold get?
    rcases List.mem_cons.mp hmem with heq | hmem
    · cases heq
      rw [if_pos rfl]
    · have hne : ¬ k = key := by
        intro heq
        subst heq
        exact hk (List.mem_map.mpr ⟨_, hmem, rfl⟩)
      rw [if_neg hne, ih hrest hmem]

/-- Under a key of a map put on top of another is what the upper one has there, or else what the
lower one has. -/
theorem get?_extend {upper : Ordered α} (h : (keys upper).Nodup) (m : Ordered α) (key : Text) :
    get? (extend m upper) key = (get? upper key).or (get? m key) := by
  induction upper generalizing m with
  | nil => rfl
  | cons e rest ih =>
    obtain ⟨k, v⟩ := e
    obtain ⟨hk, hrest⟩ := List.nodup_cons.mp h
    have hput : extend m ((k, v) :: rest) = extend (put m k v) rest := rfl
    rw [hput, ih hrest, get?_put, get?]
    by_cases hkey : k = key
    · -- The entry is not touched by those after it, which are under other keys.
      have hnone : get? rest key = none := by
        rw [← Option.not_isSome_iff_eq_none, get?_isSome_iff, ← hkey]
        exact hk
      rw [if_pos hkey, if_pos hkey, hnone]
      rfl
    · rw [if_neg hkey, if_neg hkey]

/-- Replacing the values replaces what is found. -/
theorem get?_map (f : α → β) (m : Ordered α) (key : Text) :
    get? (m.map fun e => (e.1, f e.2)) key = (get? m key).map f := by
  induction m with
  | nil => rfl
  | cons e rest ih =>
    obtain ⟨k, v⟩ := e
    rw [List.map_cons, get?, get?, ih]
    split <;> rfl

/-! ## Maps of entries -/

/-- What is found under a key stands in the map. -/
theorem mem_of_get? {m : Ordered α} {key : Text} {value : α} (h : get? m key = some value) :
    (key, value) ∈ m := by
  induction m with
  | nil => cases h
  | cons e rest ih =>
    obtain ⟨k, v⟩ := e
    unfold get? at h
    split at h
    next hk =>
      cases h
      rw [hk]
      exact List.mem_cons_self ..
    next => exact List.mem_cons_of_mem _ (ih h)

/-- A new key is put at the end. -/
theorem put_of_not_mem {m : Ordered α} {key : Text} (h : key ∉ keys m) (value : α) :
    put m key value = m ++ [(key, value)] := by
  induction m with
  | nil => rfl
  | cons e rest ih =>
    obtain ⟨k, v⟩ := e
    obtain ⟨hk, hrest⟩ := not_or.mp (mt List.mem_cons.mpr h)
    rw [put, if_neg (Ne.symm hk), ih hrest]
    rfl

theorem mem_keys_put {m : Ordered α} {key other : Text} {value : α}
    (h : other ∈ keys (put m key value)) : other = key ∨ other ∈ keys m := by
  rw [← get?_isSome_iff, get?_put] at h
  split at h
  next heq => exact Or.inl heq.symm
  next => exact Or.inr ((get?_isSome_iff m other).mp h)

/-- No key comes to be there twice. -/
theorem nodup_put {m : Ordered α} (h : (keys m).Nodup) (key : Text) (value : α) :
    (keys (put m key value)).Nodup := by
  induction m with
  | nil => exact List.pairwise_singleton _ _
  | cons e rest ih =>
    obtain ⟨k, v⟩ := e
    obtain ⟨hk, hrest⟩ := List.nodup_cons.mp h
    rw [put]
    split
    next => exact h
    next hne =>
      refine List.nodup_cons.mpr ⟨?_, ih hrest⟩
      intro hmem
      rcases mem_keys_put hmem with heq | hmem
      · exact hne heq
      · exact hk hmem

/-- Each entry is the new one or was there before. -/
theorem mem_put {m : Ordered α} {key : Text} {value : α} {e : Text × α}
    (h : e ∈ put m key value) : e = (key, value) ∨ e ∈ m := by
  induction m with
  | nil => exact Or.inl (List.mem_singleton.mp h)
  | cons d rest ih =>
    obtain ⟨k, v⟩ := d
    rw [put] at h
    split at h
    next hk =>
      rcases List.mem_cons.mp h with rfl | h
      · exact Or.inl (hk ▸ rfl)
      · exact Or.inr (List.mem_cons_of_mem _ h)
    next =>
      rcases List.mem_cons.mp h with rfl | h
      · exact Or.inr (List.mem_cons_self ..)
      · exact (ih h).imp id (List.mem_cons_of_mem _)

/-- A map of entries has every key once, and no entries but these. -/
theorem ofEntries_made (entries : List (Text × α)) :
    (keys (ofEntries entries)).Nodup ∧ ∀ e ∈ ofEntries entries, e ∈ entries := by
  have hgeneral : ∀ (entries : List (Text × α)) (m : Ordered α), (keys m).Nodup →
      (keys (extend m entries)).Nodup ∧ ∀ e ∈ extend m entries, e ∈ m ∨ e ∈ entries := by
    intro entries
    induction entries with
    | nil => exact fun m hm => ⟨hm, fun e he => Or.inl he⟩
    | cons d rest ih =>
      intro m hm
      obtain ⟨hkeys, hmem⟩ := ih (put m d.1 d.2) (nodup_put hm d.1 d.2)
      refine ⟨hkeys, fun e he => ?_⟩
      rcases hmem e he with he | he
      · rcases mem_put he with rfl | he
        · exact Or.inr (List.mem_cons_self ..)
        · exact Or.inl he
      · exact Or.inr (List.mem_cons_of_mem _ he)
  obtain ⟨hkeys, hmem⟩ := hgeneral entries [] List.nodup_nil
  exact ⟨hkeys, fun e he => (hmem e he).elim nofun id⟩

/-- Entries with keys of their own are a map as they are. -/
theorem ofEntries_of_nodup {entries : List (Text × α)} (h : (keys entries).Nodup) :
    ofEntries entries = entries := by
  have hgeneral : ∀ (entries : List (Text × α)) (m : Ordered α), (keys (m ++ entries)).Nodup →
      extend m entries = m ++ entries := by
    intro entries
    induction entries with
    | nil => exact fun m _ => (List.append_nil m).symm
    | cons d rest ih =>
      intro m hm
      have hd : d.1 ∉ keys m := by
        unfold keys at hm
        rw [List.map_append, List.map_cons] at hm
        exact fun hmem => (List.nodup_append.mp hm).2.2 _ hmem _ (List.mem_cons_self ..) rfl
      have hsplit : m ++ d :: rest = m ++ [d] ++ rest := List.append_cons ..
      rw [hsplit] at hm ⊢
      rw [← ih _ hm, ← put_of_not_mem hd]
      rfl
  exact hgeneral entries [] h

end Scaffold.Ordered
