import Scaffold.Proofs.Json.Reading
import Scaffold.Proofs.Ordered
import Scaffold.Proofs.Text.Digits

/-!
# What readers give

Whatever the text, a value that was read has whole numbers of bounded size, and objects that have
every key once (`read_given`). Nothing else is known of it: texts may hold anything that an escape
can name, and binary numbers may be no numbers.
-/

namespace Scaffold.Json

/-- The values that a reader may give. -/
inductive Given : Json → Prop
  | null : Given .null
  | bool (b : Bool) : Given (.bool b)
  | int {n : Int} (h : n.natAbs < 10 ^ maxDigits) : Given (.int n)
  | float (x : Float) : Given (.float x)
  | text (t : Text) : Given (.text t)
  | list {items : List Json} (h : ∀ v ∈ items, Given v) : Given (.list items)
  | object {fields : List (Text × Json)} (hkeys : (Ordered.keys fields).Nodup)
    (h : ∀ f ∈ fields, Given f.2) : Given (.object fields)

/-- A word is null, a truth value, or a number that is none. -/
theorem readWord?_given {t rest : Text} {v : Json} (h : readWord? t = some (v, rest)) :
    Given v := by
  obtain ⟨⟨word, value⟩, hmem, hfound⟩ := List.exists_of_findSome?_eq_some h
  obtain ⟨_, _, heq⟩ := Option.map_eq_some_iff.mp hfound
  cases heq
  simp only [words, List.mem_cons, Prod.mk.injEq, List.not_mem_nil, or_false] at hmem
  rcases hmem with ⟨_, rfl⟩ | ⟨_, rfl⟩ | ⟨_, rfl⟩ | ⟨_, rfl⟩ | ⟨_, rfl⟩ | ⟨_, rfl⟩
  · exact .null
  · exact .bool true
  · exact .bool false
  · exact .float _
  · exact .float _
  · exact .float _

/-- A whole number that was read has no more digits than the reader takes. -/
theorem readNumber_given {t rest : Text} {v : Json} (h : readNumber t = .ok (v, rest)) :
    Given v := by
  unfold readNumber at h
  split at h
  next negative unsigned _ =>
    split at h
    next digits whole hwhole =>
      have hdigits : ∀ c ∈ digits, c.isDigit = true := by
        split at hwhole
        next =>
          cases hwhole
          decide
        next =>
          rw [← (Prod.mk.inj hwhole).1]
          exact List.all_eq_true.mp List.all_takeWhile
      split at h
      next => cases h
      next =>
        dsimp only at h
        split at h
        next =>
          split at h
          next => cases h
          next hlength =>
            cases h
            -- Longer numerals were refused above, so the bound is on the number as well.
            have hsize : Text.toNat digits < 10 ^ maxDigits :=
              Nat.lt_of_lt_of_le (Text.toNat_lt hdigits)
                (Nat.pow_le_pow_right (by decide) (Nat.not_lt.mp hlength))
            refine .int ?_
            split <;> omega
        next =>
          cases h
          exact .float _

/-- Whatever the readers succeed with is given: its parts are, and an object keeps one entry of each
key. -/
theorem compositional_given (g : Grammar) :
    Compositional g (fun _ v _ => Given v) (fun _ vs _ => ∀ v ∈ vs, Given v)
      fun _ fs _ => ∀ f ∈ fs, Given f.2 where
  text _ := .text _
  word := readWord?_given
  number := readNumber_given
  emptyList _ := .list nofun
  list hitems := .list hitems
  emptyObject _ := .object List.nodup_nil nofun
  object {_ fs _} hfields := by
    obtain ⟨hkeys, hmem⟩ := Ordered.ofEntries_made fs
    exact .object hkeys fun f hf => hfields f (hmem f hf)
  lastItem hv _ := List.forall_mem_singleton.mpr hv
  item hv _ hitems := List.forall_mem_cons.mpr ⟨hv, hitems⟩
  lastField _ _ hv _ := List.forall_mem_singleton.mpr hv
  field _ _ hv _ hfields := List.forall_mem_cons.mpr ⟨hv, hfields⟩

/-- The value that a whole text writes is given. -/
theorem read_given {g : Grammar} {t : Text} {v : Json} (h : read g t = .ok v) : Given v := by
  obtain ⟨rest, hvalue, _⟩ := read_ok h
  exact ((compositional_given g).holding _).value hvalue

end Scaffold.Json
