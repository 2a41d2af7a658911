import Scaffold.Proofs.Artifact.Described
import Scaffold.Proofs.Artifact.Structure
import Scaffold.Proofs.Json.Writing
import Scaffold.Proofs.Text.Search

/-!
# What a structure file lists

A structure file lists texts and objects side by side. Each gives an entry (`Entry.ofValue`), whose
name is that of its type without the blanks around it. A file passes the check exactly if it lists
something, and all of it has such a name (`load_listed_iff`). Lists that differ in where they ask
for built-in kinds, and in what they ask for again, lead to the same artifacts (`resolve_moved`).

The condition is on the values of the list and on nothing else in the file: other fields of the
object are passed over, and options of an entry are not looked at here.
-/

namespace Scaffold

open Files (Path Tree)
open Program (except_bind_ok_iff)

/-! ## Single values -/

/-- The entry that a value gives. Its name is empty if the value asks for nothing. -/
def Entry.ofValue : Json → Entry
  | .text name => { name := Text.trim name }
  | .object fields =>
    match Ordered.get? fields "type" with
    | some (.text name) => { name := Text.trim name, options := fields }
    | _ => { name := [] }
  | _ => { name := [] }

/-- The name of the type that a value asks for, without the blanks around it. -/
def Json.typeName (v : Json) : Text := (Entry.ofValue v).name

/-- A name gives an entry exactly if something is left of it without blanks. -/
theorem Entry.named?_eq_some_iff {name : Text} {options : List (Text × Json)} {e : Entry} :
    named? name options = some e ↔
      Text.trim name ≠ [] ∧ e = { name := Text.trim name, options } := by
  unfold named?
  rw [Ne, Text.trim_eq_nil_iff]
  by_cases hblank : Text.isBlank name = true
  · simp [hblank]
  · simp [hblank, eq_comm]

/-- A value passes the check if it has a name. -/
theorem Entry.ofJson?_eq_some_iff {v : Json} {e : Entry} :
    ofJson? v = some e ↔ v.typeName ≠ [] ∧ e = ofValue v := by
  unfold Json.typeName
  cases v with
  | text name => exact named?_eq_some_iff
  | object fields =>
    unfold ofJson? ofValue
    dsimp only
    rcases Ordered.get? fields "type" with _ | (_ | _ | _ | _ | name | _ | _)
    case some.text => exact named?_eq_some_iff
    all_goals simp
  | _ => simp [ofJson?, ofValue]

namespace Structure

/-! ## Lists of values -/

/-- The list is not empty, and everything in it has a name. -/
structure Acceptable (values : List Json) : Prop where
  nonempty : values ≠ []
  named : ∀ v ∈ values, v.typeName ≠ []

/-- Values give entries exactly if all of them name a type. -/
theorem entriesOf_ok_iff {path : Path} {values : List Json} {entries : List Entry} :
    entriesOf path values = .ok entries ↔
      (∀ v ∈ values, v.typeName ≠ []) ∧ entries = values.map Entry.ofValue := by
  induction values generalizing entries with
  | nil =>
    constructor
    · intro h
      cases h
      exact ⟨nofun, rfl⟩
    · rintro ⟨_, rfl⟩
      rfl
  | cons v rest ih =>
    unfold entriesOf
    rw [List.forall_mem_cons]
    cases hfirst : Entry.ofJson? v with
    | none =>
      have hunnamed : ¬ v.typeName ≠ [] := by
        intro hname
        rw [Entry.ofJson?_eq_some_iff.mpr ⟨hname, rfl⟩] at hfirst
        cases hfirst
      exact ⟨nofun, fun h => absurd h.1.1 hunnamed⟩
    | some e =>
      obtain ⟨hname, rfl⟩ := Entry.ofJson?_eq_some_iff.mp hfirst
      dsimp only
      constructor
      · intro h
        cases hrest : entriesOf path rest with
        | error error =>
          rw [hrest] at h
          cases h
        | ok others =>
          rw [hrest] at h
          cases h
          obtain ⟨hothers, rfl⟩ := ih.mp hrest
          exact ⟨⟨hname, hothers⟩, rfl⟩
      · rintro ⟨⟨_, hothers⟩, rfl⟩
        rw [ih.mpr ⟨hothers, rfl⟩]
        rfl

/-- The list of artifacts among the fields of a structure file; empty if there is none. -/
def valuesOf (fields : List (Text × Json)) : List Json :=
  match Ordered.get? fields "artifacts" with
  | some (.list values) => values
  | _ => []

/-- An object gives the entries of its list exactly if the list is acceptable. -/
theorem ofFields_ok_iff {path : Path} {fields : List (Text × Json)} {entries : List Entry} :
    ofFields path fields = .ok entries ↔
      Acceptable (valuesOf fields) ∧ entries = (valuesOf fields).map Entry.ofValue := by
  have hempty : ¬ Acceptable [] := fun h => h.nonempty rfl
  unfold ofFields valuesOf
  rcases Ordered.get? fields "artifacts" with _ | (_ | _ | _ | _ | _ | values | _)
  case some.list =>
    cases values with
    | nil => exact ⟨nofun, fun h => absurd h.1 hempty⟩
    | cons v rest =>
      dsimp only
      rw [entriesOf_ok_iff]
      exact and_congr_left fun _ => ⟨fun hnamed => ⟨List.cons_ne_nil v rest, hnamed⟩,
        Acceptable.named⟩
  all_goals exact ⟨nofun, fun h => absurd h.1 hempty⟩

/-! ## Files -/

/-- The list of artifacts in a structure file; empty if there is none. -/
def listed (path : Path) (t : Tree) : List Json :=
  match Json.fieldsAt path t with
  | .ok (.ok fields) _ => valuesOf fields
  | _ => []

/-- A structure file passes the check if its list does, and its entries are those of the list. -/
theorem load_listed_iff {path : Path} {t : Tree} {entries : List Entry} :
    load path t = .ok (.ok entries) t ↔
      Acceptable (listed path t) ∧ entries = (listed path t).map Entry.ofValue := by
  obtain ⟨found, hfields⟩ := fieldsAt_returns path t
  rw [load_of_fieldsAt hfields]
  unfold listed
  rw [hfields]
  cases found with
  | error error => exact ⟨nofun, fun h => absurd rfl h.1.nonempty⟩
  | ok fields =>
    dsimp only
    rw [← @ofFields_ok_iff path]
    constructor
    · intro h
      injection h
    · intro h
      exact congrArg (EStateM.Result.ok · t) h

/-- A value that is the page of a file, and that files keep as it is, is read with its list. -/
theorem listed_page {path : Path} {t : Tree} {x : Files.Address} {bytes : Utf8.Bytes} {v : Json}
    (hleads : Files.address path t = .ok x t) (hnode : t.node? x = some (.file bytes))
    (hencode : Utf8.encode v.page = .ok bytes) (h : Json.Writable Json.Grammar.lenient.maxDepth v) :
    listed path t = valuesOf v.fieldsOf := by
  have hbytes : Files.readBytes path t = .ok bytes t :=
    Files.readBytes_ok_iff.mpr ⟨rfl, x, hleads, hnode⟩
  have hreturn : CodePoint.char '\r' ∉ v.page := fun hmem => (Json.mem_page h hmem).2 rfl
  have htext : Files.readText path t = .ok v.page t :=
    Files.readText_ok_iff.mpr ⟨bytes, _, hbytes, Utf8.decode_encode hencode,
      (Files.universalLines_of_not_mem hreturn).symm⟩
  unfold listed Json.fieldsAt
  rw [htext]
  dsimp only
  rw [Json.read_page h]

/-! ## Other lists -/

/-- A list stays acceptable when the built-in kinds in it stand in other places and what it asks
for is asked for again. -/
theorem Acceptable.moved {values values' more : List Json} (h : Acceptable values)
    (hmoved : Artifact.Moved Json.typeName values values')
    (hknown : ∀ v ∈ more, v.typeName ∈ values.map Json.typeName) :
    Acceptable (values' ++ more) := by
  have hnamed : ∀ name ∈ values.map Json.typeName, name ≠ [] := by
    intro name hname
    obtain ⟨v, hv, rfl⟩ := List.mem_map.mp hname
    exact h.named v hv
  refine ⟨?_, fun v hv => ?_⟩
  · obtain ⟨v, rest, rfl⟩ := List.exists_cons_of_ne_nil h.nonempty
    have hmem := hmoved.mem_names_iff.mpr (List.mem_map_of_mem (List.mem_cons_self (a := v)))
    obtain ⟨v', hv', _⟩ := List.mem_map.mp hmem
    exact List.ne_nil_of_mem (List.mem_append_left more hv')
  · rcases List.mem_append.mp hv with hv | hv
    · exact hnamed _ (hmoved.mem_names_iff.mp (List.mem_map_of_mem hv))
    · exact hnamed _ (hknown v hv)

/-- A list with built-in kinds in other places, and with more items that ask for what is asked for
already, leads to the same artifacts. -/
theorem resolve_moved {s : Settings} {base : Text} {values values' more : List Json}
    (hmoved : Artifact.Moved Json.typeName values values')
    (hknown : ∀ v ∈ more, v.typeName ∈ values.map Json.typeName) :
    Artifact.resolve s ((values' ++ more).map Entry.ofValue) base =
      Artifact.resolve s (values.map Entry.ofValue) base := by
  have hagain : ∀ e ∈ more.map Entry.ofValue,
      e.name ∈ (values'.map Entry.ofValue).map Entry.name := by
    intro e he
    obtain ⟨v, hv, rfl⟩ := List.mem_map.mp he
    rw [List.map_map]
    exact hmoved.mem_names_iff.mpr (hknown v hv)
  have hentries : Artifact.Moved Entry.name (values.map Entry.ofValue)
      (values'.map Entry.ofValue) := Artifact.Moved.map hmoved
  rw [List.map_append, Artifact.resolve_append hagain, Artifact.resolve_moved hentries]

end Structure

end Scaffold
