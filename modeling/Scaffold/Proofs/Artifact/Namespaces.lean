import Scaffold.Proofs.Artifact.Resolve
import Scaffold.Proofs.Ordered
import Scaffold.Proofs.Stub.Rendering
import Scaffold.Run.Source

/-!
# The namespaces that artifacts import

An artifact declares the namespace that the settings give its kind; the other artifacts of the
table import it from a map of namespaces, in which the settings are put on top of the default
layout. The two go different ways where the settings say nothing about a kind, or give it an empty
directory: the map keeps the default layout, or the empty namespace, while the artifact itself is
placed by the name of its kind. So what is imported is there exactly where the settings give the
kind a directory (`imported_namespace_iff`).
-/

namespace Scaffold

open Schema (Metadata)
open Stub (namespaceOr replacements token)

/-- The kinds whose namespaces other artifacts import. -/
def imported : List Kind := [.model, .request, .resource, .service]

/-- The token for the namespace of a kind. -/
def namespaceToken (kind : Kind) : Text :=
  Text.concat ["\x7b\x7b", kind.name, "_namespace\x7d\x7d"]

/-- The settings give the kind a directory, and not the empty one. -/
def Placed (s : Settings) (kind : Kind) : Prop :=
  ∃ c rest, Ordered.get? s.directories kind.name = some (c :: rest)

/-! ## The map of namespaces -/

/-- The namespace that the map has for a kind: that of the directory in the settings, or else that
of the default layout. -/
theorem get?_siblingNamespaces {s : Settings} (h : (Ordered.keys s.directories).Nodup)
    (name : Text) :
    Ordered.get? (siblingNamespaces s.namespaces) name =
      ((Ordered.get? s.directories name).or (Ordered.get? defaultDirectories name)).map
        Naming.namespaceOf := by
  have hkeys : Ordered.keys s.namespaces = Ordered.keys s.directories := by
    unfold Settings.namespaces namespacesOf Ordered.keys
    rw [List.map_map]
    rfl
  unfold siblingNamespaces
  rw [Ordered.get?_extend (hkeys ▸ h)]
  unfold Settings.namespaces namespacesOf
  rw [Ordered.get?_map, Ordered.get?_map, Option.map_or]

/-- What stands for the namespace of a kind is what the map has for it. -/
theorem get?_namespaceToken {namespaces : Ordered Text} {kind : Kind} {n : Text}
    (hkind : kind ∈ imported) (h : Ordered.get? namespaces kind.name = some n) (a : Artifact)
    (m : Metadata) :
    Ordered.get? (replacements namespaces a m) (namespaceToken kind) = some n := by
  have hnodup : (Ordered.keys (replacements namespaces a m)).Nodup := by
    rw [Stub.keys_replacements]
    decide +kernel
  have hvalue : ∀ default, namespaceOr namespaces kind.name default = n := by
    intro default
    unfold namespaceOr
    rw [h]
    rfl
  apply Ordered.get?_of_mem hnodup
  unfold imported at hkind
  simp only [List.mem_cons, List.not_mem_nil, or_false] at hkind
  rcases hkind with rfl | rfl | rfl | rfl
  · rw [← hvalue "App\\Models"]
    exact List.mem_of_getElem? (show (replacements namespaces a m)[3]? = _ from rfl)
  · rw [← hvalue "App\\Http\\Requests"]
    exact List.mem_of_getElem? (show (replacements namespaces a m)[4]? = _ from rfl)
  · rw [← hvalue "App\\Http\\Resources"]
    exact List.mem_of_getElem? (show (replacements namespaces a m)[5]? = _ from rfl)
  · rw [← hvalue "App\\Services"]
    exact List.mem_of_getElem? (show (replacements namespaces a m)[6]? = _ from rfl)

/-- The default layout knows the imported kinds, but not by the directories that their names
suggest. -/
theorem default_ne_fallback {kind : Kind} (h : kind ∈ imported) :
    ∃ directory, Ordered.get? defaultDirectories kind.name = some directory ∧
      Naming.namespaceOf directory ≠
        Naming.namespaceOf (Settings.fallbackDirectory kind.name) := by
  unfold imported at h
  simp only [List.mem_cons, List.not_mem_nil, or_false] at h
  rcases h with rfl | rfl | rfl | rfl <;> exact ⟨_, rfl, by decide +kernel⟩

/-- An empty directory has another namespace than the one that the name of the kind suggests. -/
theorem namespaceOf_nil_ne_fallback {kind : Kind} (h : kind ∈ imported) :
    Naming.namespaceOf [] ≠ Naming.namespaceOf (Settings.fallbackDirectory kind.name) := by
  unfold imported at h
  simp only [List.mem_cons, List.not_mem_nil, or_false] at h
  rcases h with rfl | rfl | rfl | rfl <;> decide +kernel

/-- The map has a namespace for every imported kind, and it is the one that the settings give the
kind exactly if they give it a directory. -/
theorem get?_siblingNamespaces_iff {s : Settings} (h : (Ordered.keys s.directories).Nodup)
    {kind : Kind} (hkind : kind ∈ imported) :
    ∃ n, Ordered.get? (siblingNamespaces s.namespaces) kind.name = some n ∧
      (n = s.namespaceOf kind.name ↔ Placed s kind) := by
  obtain ⟨directory, hdefault, hne⟩ := default_ne_fallback hkind
  have hget := get?_siblingNamespaces h kind.name
  unfold Settings.namespaceOf Placed
  cases hdirectory : Ordered.get? s.directories kind.name with
  | none =>
    rw [hdirectory, hdefault] at hget
    refine ⟨_, hget, ?_⟩
    constructor
    · intro heq
      exact absurd heq hne
    · intro hparts
      obtain ⟨_, _, hplaced⟩ := hparts
      cases hplaced
  | some given =>
    rw [hdirectory] at hget
    refine ⟨_, hget, ?_⟩
    -- A directory that is given as the empty text counts as none where the namespace is made, but
    -- as one where the siblings are listed.
    cases given with
    | nil =>
      constructor
      · intro heq
        exact absurd heq (namespaceOf_nil_ne_fallback hkind)
      · intro hparts
        obtain ⟨_, _, hplaced⟩ := hparts
        cases hplaced
    | cons c rest => exact ⟨fun _ => ⟨c, rest, rfl⟩, fun _ => rfl⟩

/-! ## The artifacts of a table -/

/-- The namespace that stubs and prompts import for an artifact of a table is the one that the
artifact declares exactly if the settings give its kind a directory. -/
theorem imported_namespace_iff {g : Run.Generator}
    (hdirectories : (Ordered.keys g.settings.directories).Nodup) {entries : List Entry}
    {base : Text} {as : List Artifact}
    (hresolve : Artifact.resolve g.settings entries base = .ok as) {b : Artifact} (hb : b ∈ as)
    (hkind : b.kind ∈ imported) (a : Artifact) (m : Metadata) (className : Text) :
    (Ordered.get? (replacements g.namespaces a m) (namespaceToken b.kind) =
        some b.classNamespace ↔ Placed g.settings b.kind) ∧
    (Prompt.sibling g.namespaces b.kind.name className =
        Text.concat [b.classNamespace, "\\", className] ↔ Placed g.settings b.kind) := by
  have hcustom : b.kind ≠ .custom := by
    intro hcustom
    rw [hcustom] at hkind
    exact absurd hkind (by decide)
  have hdeclared := Artifact.classNamespace_of_mem_resolve hresolve hb hcustom
  obtain ⟨n, hget, hiff⟩ := get?_siblingNamespaces_iff hdirectories hkind
  replace hget : Ordered.get? g.namespaces b.kind.name = some n := hget
  rw [← hdeclared] at hiff
  -- Stubs and prompts both show what the map has, each in its own way.
  constructor
  · rw [get?_namespaceToken hkind hget a m, Option.some.injEq]
    exact hiff
  · have hsibling : Prompt.sibling g.namespaces b.kind.name className =
        Text.concat [n, "\\", className] := by
      unfold Prompt.sibling namespaceOr
      rw [hget]
      rfl
    have hcancel : Text.concat [n, "\\", className] =
        Text.concat [b.classNamespace, "\\", className] ↔ n = b.classNamespace := by
      constructor
      · intro heq
        simpa [Text.concat] using heq
      · intro heq
        rw [heq]
    rw [hsibling, hcancel]
    exact hiff

/-- In the default layout the model is imported from where it is. -/
theorem imported_namespace_iff_default :
    let g : Run.Generator :=
      { settings := {}, backend := .none, catalog := {}, network := .unreachable,
        clock := fun _ => 0, bundledStubs := ⟨.here, []⟩ }
    ∃ as b, Artifact.resolve g.settings Structure.default "User" = .ok as ∧ b ∈ as ∧
      b.kind = .model ∧
      Ordered.get? (replacements g.namespaces b default) (namespaceToken .model) =
        some b.classNamespace ∧
      Prompt.sibling g.namespaces (Kind.name .model) "User" =
        Text.concat [b.classNamespace, "\\", "User"] := by
  intro g
  obtain ⟨as, b, hresolve, hb, hkind⟩ : ∃ as b,
      Artifact.resolve g.settings Structure.default "User" = .ok as ∧ b ∈ as ∧
        b.kind = .model := ⟨_, _, rfl, List.mem_cons_self .., rfl⟩
  have hplaced : Placed g.settings b.kind := by
    rw [hkind]
    exact ⟨_, _, rfl⟩
  have himported : b.kind ∈ imported := by
    rw [hkind]
    decide
  have hiff := imported_namespace_iff (show (Ordered.keys g.settings.directories).Nodup by
    decide) hresolve hb himported b default "User"
  rw [hkind] at hiff hplaced
  exact ⟨as, b, hresolve, hb, hkind, hiff.1.mpr hplaced, hiff.2.mpr hplaced⟩

/-- Settings that mention services only: the model declares one namespace and the others import
another. -/
theorem imported_namespace_of_unplaced :
    let g : Run.Generator :=
      { settings := { directories := [("service", "app/Domain")] }, backend := .none,
        catalog := {}, network := .unreachable, clock := fun _ => 0,
        bundledStubs := ⟨.here, []⟩ }
    ∃ as b, Artifact.resolve g.settings Structure.default "User" = .ok as ∧ b ∈ as ∧
      b.kind = .model ∧ b.classNamespace = Text.ofString "App\\Model" ∧
      Ordered.get? (replacements g.namespaces b default) (namespaceToken .model) =
        some (Text.ofString "App\\Models") ∧
      Prompt.sibling g.namespaces (Kind.name .model) "User" =
        Text.ofString "App\\Models\\User" :=
  ⟨_, _, rfl, List.mem_cons_self .., rfl, by decide +kernel, by decide +kernel, by decide +kernel⟩

end Scaffold
