import Scaffold.Proofs.Artifact.Resolve
import Scaffold.Proofs.Distinct

/-!
# Which entries give artifacts

The check of a structure file looks at the names of its entries only. Whether an entry gives an
artifact depends on its other options, too (`Entry.Usable`): entries give artifacts for every table,
or for none (`resolve_ok_iff`), and those that do give one artifact for every name
(`resolve_onePerName`).

The condition does not mention the table or the settings, and it is asked only of the first entry of
each name. For built-in kinds it is about the stub, for custom ones about path, prompt and stub. A
suffix of any kind passes.
-/

namespace Scaffold

/-- The value is null or a text. -/
def Json.IsOptionalText (v : Json) : Prop := v = .null ∨ ∃ t, v = .text t

instance (v : Json) : Decidable v.IsOptionalText :=
  match v with
  | .null => isTrue (Or.inl rfl)
  | .text t => isTrue (Or.inr ⟨t, rfl⟩)
  | .bool _ | .int _ | .float _ | .list _ | .object _ => isFalse (by simp [Json.IsOptionalText])

/-- The options of the entry are of the kinds that its artifact needs. For a built-in kind only
the stub matters. -/
structure Entry.Usable (e : Entry) : Prop where
  template : (e.option "template").IsOptionalText
  prompt : Artifact.kindOf? e = none → (e.option "prompt").IsOptionalText
  path : Artifact.kindOf? e = none → (e.option "path").isSet = true →
    ∃ t, e.option "path" = .text t

/-- For every name the entry that counts is usable. -/
def AllUsable (entries : List Entry) : Prop := ∀ e ∈ distinctOn Entry.name entries, e.Usable

namespace Artifact

open Program (except_bind_ok_iff except_filterMapM_map except_filterMapM_ok_iff except_mapM_map
  except_mapM_ok_iff)

/-! ## Single entries -/

/-- A check passes as an error or not at all. -/
theorem ofChecked_ok_iff {α : Type} {c : Checked α} :
    (∃ a, ofChecked c = .ok a) ↔ ∃ a, c = .value a := by
  cases c with
  | value a => exact ⟨fun _ => ⟨a, rfl⟩, fun _ => ⟨a, rfl⟩⟩
  | complaints cs =>
    constructor <;> intro hparts <;> cases hparts.choose_spec

/-- Two checked values are both there or both complained about. -/
theorem pair_value_iff {α β : Type} {c : Checked α} {d : Checked β} :
    (∃ p, (Prod.mk <$> c <*> d) = .value p) ↔ (∃ a, c = .value a) ∧ ∃ b, d = .value b := by
  cases c <;> cases d
  case value.value a b => exact ⟨fun _ => ⟨⟨a, rfl⟩, b, rfl⟩, fun _ => ⟨(a, b), rfl⟩⟩
  all_goals
    constructor
    · intro hparts
      cases hparts.choose_spec
    · intro hparts
      first | cases hparts.1.choose_spec | cases hparts.2.choose_spec

/-- An option passes exactly if it is a text or not set to anything. -/
theorem textOption_value_iff {e : Entry} {name : Text} :
    (∃ t, textOption e name = .value t) ↔ (e.option name).IsOptionalText := by
  unfold textOption Json.IsOptionalText
  cases e.option name with
  | null => exact ⟨fun _ => Or.inl rfl, fun _ => ⟨none, rfl⟩⟩
  | text t => exact ⟨fun _ => Or.inr ⟨t, rfl⟩, fun _ => ⟨some t, rfl⟩⟩
  | _ =>
    constructor
    · intro hparts
      cases hparts.choose_spec
    · rintro (h | ⟨t, h⟩) <;> cases h

/-- A built-in kind needs no more than a stub that is named by a text. -/
theorem builtin_ok_iff {s : Settings} {base : Text} {kind : Kind} {e : Entry} :
    (∃ a, builtin s base kind e = .ok a) ↔ (e.option "template").IsOptionalText := by
  rw [← textOption_value_iff, ← ofChecked_ok_iff]
  constructor
  · intro hparts
    obtain ⟨a, h⟩ := hparts
    obtain ⟨template, htemplate, _⟩ := except_bind_ok_iff.mp h
    exact ⟨template, htemplate⟩
  · intro hparts
    obtain ⟨template, htemplate⟩ := hparts
    exact ⟨_, except_bind_ok_iff.mpr ⟨template, htemplate, rfl⟩⟩

/-- A path passes if it is a text, or counts as not given. -/
theorem placeOf_ok_iff {s : Settings} {e : Entry} :
    (∃ place, placeOf s e = .ok place) ↔
      ((e.option "path").isSet = true → ∃ t, e.option "path" = .text t) := by
  unfold placeOf
  dsimp only
  generalize e.option "path" = given
  by_cases hset : given.isSet = true
  · rw [if_pos hset]
    cases given with
    | text t => exact ⟨fun _ _ => ⟨t, rfl⟩, fun _ => ⟨_, rfl⟩⟩
    | _ =>
      refine ⟨fun hparts => ?_, fun hpath => ?_⟩
      · cases hparts.choose_spec
      · cases (hpath hset).choose_spec
  · rw [if_neg hset]
    exact ⟨fun _ h => absurd h hset, fun _ => ⟨_, rfl⟩⟩

/-- A custom entry needs texts for its prompt, its stub and its path, as far as they are given. -/
theorem custom_ok_iff {s : Settings} {base : Text} {e : Entry} :
    (∃ a, custom s base e = .ok a) ↔
      ((e.option "path").isSet = true → ∃ t, e.option "path" = .text t) ∧
        (e.option "prompt").IsOptionalText ∧ (e.option "template").IsOptionalText := by
  rw [← placeOf_ok_iff (s := s), ← textOption_value_iff, ← textOption_value_iff, ← pair_value_iff,
    ← ofChecked_ok_iff]
  constructor
  · intro hparts
    obtain ⟨a, h⟩ := hparts
    obtain ⟨place, hplace, h⟩ := except_bind_ok_iff.mp h
    obtain ⟨options, hoptions, _⟩ := except_bind_ok_iff.mp h
    exact ⟨⟨place, hplace⟩, options, hoptions⟩
  · intro hparts
    obtain ⟨⟨place, hplace⟩, options, hoptions⟩ := hparts
    exact ⟨_, except_bind_ok_iff.mpr ⟨place, hplace,
      except_bind_ok_iff.mpr ⟨options, hoptions, rfl⟩⟩⟩

/-- A custom artifact bears the name of its entry. -/
theorem custom_name {s : Settings} {base : Text} {e : Entry} {a : Artifact}
    (h : custom s base e = .ok a) : a.name = e.name := by
  obtain ⟨place, _, h⟩ := except_bind_ok_iff.mp h
  obtain ⟨options, _, h⟩ := except_bind_ok_iff.mp h
  cases h
  rfl

/-! ## All entries -/

theorem kindOf?_eq_some_iff {e : Entry} {kind : Kind} :
    kindOf? e = some kind ↔ kind ∈ Kind.builtin ∧ kind.name = e.name := by
  have hfound : ∀ kind ∈ Kind.builtin, Kind.builtin.find? (·.name = kind.name) = some kind := by
    decide
  unfold kindOf?
  constructor
  · intro h
    exact ⟨List.mem_of_find?_eq_some h, of_decide_eq_true (List.find?_some h :)⟩
  · intro hparts
    obtain ⟨hkind, hname⟩ := hparts
    rw [← hname]
    exact hfound kind hkind

/-- A name that is no built-in kind names a custom one. -/
theorem kindOf?_eq_none_iff {e : Entry} :
    kindOf? e = none ↔ e.name ∉ Kind.builtin.map Kind.name := by
  unfold kindOf?
  rw [List.find?_eq_none, List.mem_map, not_exists]
  simp only [decide_eq_true_eq, not_and]

theorem isNone_kindOf? (e : Entry) :
    (kindOf? e).isNone = decide (e.name ∉ Kind.builtin.map Kind.name) := by
  rw [Bool.eq_iff_iff, Option.isNone_iff_eq_none, kindOf?_eq_none_iff, decide_eq_true_iff]

/-- An entry of a built-in kind is usable exactly if it gives an artifact of that kind. -/
theorem builtin_ok_iff_usable {s : Settings} {base : Text} {kind : Kind} {e : Entry}
    (h : kindOf? e = some kind) : (∃ a, builtin s base kind e = .ok a) ↔ e.Usable := by
  have hnot : kindOf? e ≠ none := by
    rw [h]
    exact Option.some_ne_none kind
  rw [builtin_ok_iff]
  refine ⟨fun htemplate => ?_, Entry.Usable.template⟩
  exact ⟨htemplate, fun hnone => absurd hnone hnot, fun hnone => absurd hnone hnot⟩

/-- An entry of no built-in kind is usable exactly if it gives a custom artifact. -/
theorem custom_ok_iff_usable {s : Settings} {base : Text} {e : Entry} (h : kindOf? e = none) :
    (∃ a, custom s base e = .ok a) ↔ e.Usable := by
  rw [custom_ok_iff]
  constructor
  · intro hparts
    obtain ⟨hpath, hprompt, htemplate⟩ := hparts
    exact ⟨htemplate, fun _ => hprompt, fun _ => hpath⟩
  · intro husable
    exact ⟨husable.path h, husable.prompt h, husable.template⟩

/-- The artifact of a built-in kind, if one of the entries asks for it. -/
def builtin? (s : Settings) (base : Text) (chosen : List Entry) (kind : Kind) :
    Except ArtifactError (Option Artifact) :=
  match chosen.find? (·.name = kind.name) with
  | some e => some <$> builtin s base kind e
  | none => pure none

/-- The built-in kinds are looked for one by one, then come the custom entries. -/
theorem resolve_eq (s : Settings) (entries : List Entry) (base : Text) :
    resolve s entries base = (do
      let chosen := distinctOn Entry.name entries
      let builtins ← Kind.builtin.filterMapM (builtin? s base chosen)
      let customs ← (chosen.filter fun e => (kindOf? e).isNone).mapM (custom s base)
      return builtins ++ customs) := rfl

/-- A built-in kind is resolved exactly if its entry, should there be one, is usable. -/
theorem builtin?_ok_iff {s : Settings} {base : Text} {entries : List Entry} {kind : Kind}
    (hkind : kind ∈ Kind.builtin) :
    (∃ found, builtin? s base (distinctOn Entry.name entries) kind = .ok found) ↔
      ∀ e ∈ distinctOn Entry.name entries, kindOf? e = some kind → e.Usable := by
  unfold builtin?
  constructor
  · intro hparts e he hof
    obtain ⟨found, h⟩ := hparts
    rw [(kindOf?_eq_some_iff.mp hof).2, find?_of_mem_distinctOn he] at h
    obtain ⟨a, ha, _⟩ := except_bind_ok_iff.mp h
    exact (builtin_ok_iff_usable hof).mp ⟨a, ha⟩
  · intro husable
    cases hfound : (distinctOn Entry.name entries).find? (·.name = kind.name) with
    | none => exact ⟨none, rfl⟩
    | some e =>
      have hname : e.name = kind.name := of_decide_eq_true (List.find?_some hfound :)
      have hof := kindOf?_eq_some_iff.mpr ⟨hkind, hname.symm⟩
      obtain ⟨a, ha⟩ := (builtin_ok_iff_usable hof).mpr
        (husable e (List.mem_of_find?_eq_some hfound) hof)
      exact ⟨some a, except_bind_ok_iff.mpr ⟨a, ha, rfl⟩⟩

theorem builtin?_name {s : Settings} {base : Text} {chosen : List Entry} {kind : Kind}
    {found : Option Artifact} (h : builtin? s base chosen kind = .ok found) :
    found.map Artifact.name =
      (Option.guard (· ∈ chosen.map Entry.name) ∘ Kind.name) kind := by
  show _ = if decide (kind.name ∈ chosen.map Entry.name) = true then some kind.name else none
  unfold builtin? at h
  cases hfound : chosen.find? (·.name = kind.name) with
  | none =>
    rw [hfound] at h
    cases h
    have hnot : kind.name ∉ chosen.map Entry.name := by
      intro hmem
      obtain ⟨e, he, hname⟩ := List.mem_map.mp hmem
      exact List.find?_eq_none.mp hfound e he (decide_eq_true hname)
    rw [decide_eq_false hnot]
    rfl
  | some e =>
    rw [hfound] at h
    obtain ⟨a, ha, h⟩ := except_bind_ok_iff.mp h
    cases h
    have hname : e.name = kind.name := of_decide_eq_true (List.find?_some hfound :)
    have hmem : kind.name ∈ chosen.map Entry.name :=
      List.mem_map.mpr ⟨e, List.mem_of_find?_eq_some hfound, hname⟩
    rw [decide_eq_true hmem, if_pos rfl]
    exact congrArg some (builtin_ok ha).2.1

/-- Entries give artifacts exactly if they are all usable, whatever the table and the settings. -/
theorem resolve_ok_iff {s : Settings} {entries : List Entry} {base : Text} :
    (∃ as, resolve s entries base = .ok as) ↔ AllUsable entries := by
  rw [resolve_eq]
  constructor
  · intro hparts e he
    obtain ⟨as, h⟩ := hparts
    obtain ⟨builtins, hbuiltins, h⟩ := except_bind_ok_iff.mp h
    obtain ⟨customs, hcustoms, _⟩ := except_bind_ok_iff.mp h
    -- An entry is used once: as a custom artifact, or where its kind is looked up.
    cases hof : kindOf? e with
    | none =>
      have hcustom : e ∈ (distinctOn Entry.name entries).filter fun e => (kindOf? e).isNone :=
        List.mem_filter.mpr ⟨he, Option.isNone_iff_eq_none.mpr hof⟩
      exact (custom_ok_iff_usable hof).mp (except_mapM_ok_iff.mp ⟨customs, hcustoms⟩ e hcustom)
    | some kind =>
      have hkind := (kindOf?_eq_some_iff.mp hof).1
      have hfound := except_filterMapM_ok_iff.mp ⟨builtins, hbuiltins⟩ kind hkind
      exact (builtin?_ok_iff hkind).mp hfound e he hof
  · intro husable
    have hbuiltin : ∀ kind ∈ Kind.builtin, ∃ found,
        builtin? s base (distinctOn Entry.name entries) kind = .ok found :=
      fun kind hkind => (builtin?_ok_iff hkind).mpr fun e he _ => husable e he
    obtain ⟨builtins, hbuiltins⟩ := except_filterMapM_ok_iff.mpr hbuiltin
    have hcustom : ∀ e ∈ (distinctOn Entry.name entries).filter (fun e => (kindOf? e).isNone),
        ∃ a, custom s base e = .ok a := by
      intro e he
      obtain ⟨hmem, hof⟩ := List.mem_filter.mp he
      exact (custom_ok_iff_usable (Option.isNone_iff_eq_none.mp hof)).mpr (husable e hmem)
    obtain ⟨customs, hcustoms⟩ := except_mapM_ok_iff.mpr hcustom
    exact ⟨builtins ++ customs, except_bind_ok_iff.mpr ⟨builtins, hbuiltins,
      except_bind_ok_iff.mpr ⟨customs, hcustoms, rfl⟩⟩⟩

/-! ## The names of the artifacts -/

/-- The artifacts come in order: those of the built-in kinds that are asked for, then the others as
they are asked for first. -/
theorem resolve_names {s : Settings} {entries : List Entry} {base : Text} {as : List Artifact}
    (h : resolve s entries base = .ok as) :
    as.map Artifact.name =
      (Kind.builtin.map Kind.name).filter (· ∈ (distinctOn Entry.name entries).map Entry.name) ++
        ((distinctOn Entry.name entries).map Entry.name).filter
          (· ∉ Kind.builtin.map Kind.name) := by
  rw [resolve_eq] at h
  obtain ⟨builtins, hbuiltins, h⟩ := except_bind_ok_iff.mp h
  obtain ⟨customs, hcustoms, h⟩ := except_bind_ok_iff.mp h
  cases h
  rw [List.map_append]
  congr 1
  · rw [except_filterMapM_map builtin?_name hbuiltins, ← List.filterMap_map,
      List.filterMap_eq_filter]
  · rw [except_mapM_map custom_name hcustoms, List.filter_map,
      List.filter_congr fun e _ => isNone_kindOf? e]
    rfl

/-- One artifact for every name, and no other. -/
structure OnePerName (entries : List Entry) (as : List Artifact) : Prop where
  distinct : (as.map Artifact.name).Nodup
  complete : ∀ name, name ∈ as.map Artifact.name ↔ name ∈ entries.map Entry.name

/-- Entries that give artifacts give one for every name. -/
theorem resolve_onePerName {s : Settings} {entries : List Entry} {base : Text}
    {as : List Artifact} (h : resolve s entries base = .ok as) : OnePerName entries as := by
  have hnames := resolve_names h
  refine ⟨?_, fun name => ?_⟩
  · rw [hnames]
    have hbuiltin : (Kind.builtin.map Kind.name).Nodup := by decide
    have hchosen := nodup_map_distinctOn Entry.name entries
    refine List.nodup_append.mpr ⟨hbuiltin.filter _, hchosen.filter _, ?_⟩
    rintro name hname _ hother rfl
    exact of_decide_eq_true (List.mem_filter.mp hother).2 (List.mem_filter.mp hname).1
  · rw [hnames, ← mem_map_distinctOn_iff, List.mem_append, List.mem_filter, List.mem_filter,
      decide_eq_true_iff, decide_eq_true_iff]
    constructor
    · rintro (hname | hname)
      · exact hname.2
      · exact hname.1
    · intro hname
      by_cases hbuiltin : name ∈ Kind.builtin.map Kind.name
      · exact Or.inl ⟨hbuiltin, hname⟩
      · exact Or.inr ⟨hname, hbuiltin⟩

end Artifact

end Scaffold
