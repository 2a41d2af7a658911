import Scaffold.Artifact.Resolve
import Scaffold.Proofs.Program

/-!
# Where the artifacts of a table come from

An artifact of a table that is not custom has a built-in kind, whose name it bears, and stands where
the settings put that kind.

This is all that the namespaces need to know about resolving: they are computed from the kind and
the settings, and an entry has no say in them for built-in kinds.
-/

namespace Scaffold.Artifact

open Program (except_bind_ok_iff mem_of_filterMapM_ok mem_of_mapM_ok)

/-- What the artifact of a built-in kind is, apart from its stub. -/
theorem builtin_ok {s : Settings} {base : Text} {kind : Kind} {e : Entry} {a : Artifact}
    (h : builtin s base kind e = .ok a) :
    a.kind = kind ∧ a.name = kind.name ∧ a.className = base ++ suffixOf kind ∧
      a.target = fileOf (s.directoryOf kind.name) (base ++ suffixOf kind) ∧
      a.classNamespace = s.namespaceOf kind.name := by
  unfold builtin at h
  cases htemplate : ofChecked (textOption e "template") with
  | error error =>
    rw [htemplate] at h
    cases h
  | ok template =>
    rw [htemplate] at h
    cases h
    exact ⟨rfl, rfl, rfl, rfl, rfl⟩

theorem custom_kind {s : Settings} {base : Text} {e : Entry} {a : Artifact}
    (h : custom s base e = .ok a) : a.kind = .custom := by
  unfold custom at h
  obtain ⟨place, _, h⟩ := except_bind_ok_iff.mp h
  obtain ⟨options, _, h⟩ := except_bind_ok_iff.mp h
  cases h
  rfl

/-- An artifact of a table comes from an entry of its own kind, or is custom. -/
theorem mem_resolve {s : Settings} {entries : List Entry} {base : Text} {as : List Artifact}
    (h : resolve s entries base = .ok as) {a : Artifact} (ha : a ∈ as) :
    a.kind = .custom ∨ ∃ e, builtin s base a.kind e = .ok a := by
  unfold resolve at h
  obtain ⟨builtins, hbuiltins, h⟩ := except_bind_ok_iff.mp h
  obtain ⟨customs, hcustoms, h⟩ := except_bind_ok_iff.mp h
  cases h
  rcases List.mem_append.mp ha with ha | ha
  · obtain ⟨kind, _, hkind⟩ := mem_of_filterMapM_ok hbuiltins ha
    split at hkind
    next e _ =>
      cases hbuilt : builtin s base kind e with
      | error error =>
        rw [hbuilt] at hkind
        cases hkind
      | ok b =>
        rw [hbuilt] at hkind
        cases hkind
        rw [(builtin_ok hbuilt).1]
        exact Or.inr ⟨e, hbuilt⟩
    next => cases hkind
  · obtain ⟨e, _, he⟩ := mem_of_mapM_ok hcustoms ha
    exact Or.inl (custom_kind he)

/-- An artifact of a built-in kind has the namespace that the settings give its kind. -/
theorem classNamespace_of_mem_resolve {s : Settings} {entries : List Entry} {base : Text}
    {as : List Artifact} (h : resolve s entries base = .ok as) {a : Artifact} (ha : a ∈ as)
    (hkind : a.kind ≠ .custom) : a.classNamespace = s.namespaceOf a.kind.name := by
  rcases mem_resolve h ha with hcustom | ⟨e, he⟩
  · exact absurd hcustom hkind
  · exact (builtin_ok he).2.2.2.2

end Scaffold.Artifact
