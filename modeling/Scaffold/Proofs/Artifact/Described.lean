import Scaffold.Proofs.Artifact.Usable

/-!
# What the entries describe

If every option that an artifact can have is a text or left out (`Entry.Worded`), then its entry
says what the artifact is (`described`). The artifacts of a table are those that the first entries
of the names describe (`resolve_resolved`). So they stay the same when built-in kinds are asked for
in other places (`resolve_moved`), and when a name is asked for again (`resolve_append`).

`described` is written without errors and without the order of checks, and the two theorems
`builtin_described` and `custom_described` say that resolving comes to the same. What is said about
lists of entries is then about `described` alone.

Two lists are moved versions of one another (`Moved`) if they differ only in where built-in kinds
stand: custom items stay in their order, and so do the items of one kind. That is kept by maps, by
keeping the first of each name, and from one list to the next.
-/

namespace Scaffold

namespace Entry

/-- The options that an artifact can have. -/
def optionKeys : List Text := ["suffix", "path", "prompt", "template"]

/-- Every option is a text, or left out. -/
def Worded (e : Entry) : Prop := ∀ key ∈ optionKeys, (e.option key).IsOptionalText

instance (e : Entry) : Decidable e.Worded :=
  inferInstanceAs (Decidable (∀ key ∈ optionKeys, (e.option key).IsOptionalText))

/-- The text of an option, if it is one. -/
def text? (e : Entry) (key : Text) : Option Text :=
  match e.option key with
  | .text t => some t
  | _ => none

/-- The text of an option that says something. -/
def given? (e : Entry) (key : Text) : Option Text := (e.text? key).filter fun t => !t.isEmpty

end Entry

namespace Artifact

open Files (Path)
open Program (except_bind_ok_iff mem_of_filterMapM_ok mem_of_mapM_ok)

/-! ## Single entries -/

/-- What a custom entry adds to the name of a class: its suffix, or else its name. -/
def describedSuffix (e : Entry) : Text := (e.given? "suffix").getD (Naming.studly e.name)

/-- Where a custom artifact goes: into the path of its entry, or else where its name leads. -/
def describedPlace (s : Settings) (e : Entry) : Path × Text :=
  match e.given? "path" with
  | some t => (s.baseDirectory / Path.ofText t, Naming.namespaceOf t)
  | none => (s.directoryOf e.name, s.namespaceOf e.name)

/-- The artifact that an entry describes, for the class of a table. An entry of a built-in kind
says no more than the stub. -/
def described (s : Settings) (base : Text) (e : Entry) : Artifact :=
  match kindOf? e with
  | some kind =>
    let className := base ++ suffixOf kind
    { kind, name := e.name, className
      target := fileOf (s.directoryOf e.name) className
      classNamespace := s.namespaceOf e.name
      template := e.text? "template" }
  | none =>
    let className := base ++ describedSuffix e
    { kind := .custom, name := e.name, className
      target := fileOf (describedPlace s e).1 className
      classNamespace := (describedPlace s e).2
      prompt := e.text? "prompt"
      template := e.text? "template" }

/-- An option that is a text or left out is what it looks like. -/
theorem textOption_of_text {e : Entry} {key : Text} (h : (e.option key).IsOptionalText) :
    textOption e key = .value (e.text? key) := by
  unfold textOption Entry.text?
  rcases h with h | ⟨t, h⟩ <;> rw [h] <;> rfl

/-- A suffix that is a text or left out is what it looks like. -/
theorem customSuffix_of_text {e : Entry} (h : (e.option "suffix").IsOptionalText) :
    customSuffix e = describedSuffix e := by
  unfold customSuffix describedSuffix Entry.given? Entry.text?
  rcases h with h | ⟨t, h⟩
  · rw [h]
    rfl
  · rw [h]
    cases t <;> rfl

/-- The place of an item whose path is a text or left out is what the path looks like. -/
theorem placeOf_of_text {s : Settings} {e : Entry} (h : (e.option "path").IsOptionalText) :
    placeOf s e = .ok (describedPlace s e) := by
  unfold placeOf describedPlace Entry.given? Entry.text?
  rcases h with h | ⟨t, h⟩
  · rw [h]
    rfl
  · rw [h]
    cases t <;> rfl

/-- An entry with such options gives the artifact of a built-in kind that it describes. -/
theorem builtin_described {s : Settings} {base : Text} {kind : Kind} {e : Entry} (h : e.Worded)
    (hof : kindOf? e = some kind) : builtin s base kind e = .ok (described s base e) := by
  have htemplate := textOption_of_text (h "template" (by decide))
  unfold builtin described
  rw [htemplate, hof, ← (kindOf?_eq_some_iff.mp hof).2]
  rfl

/-- An entry with such options gives the custom artifact that it describes. -/
theorem custom_described {s : Settings} {base : Text} {e : Entry} (h : e.Worded)
    (hof : kindOf? e = none) : custom s base e = .ok (described s base e) := by
  have hprompt := textOption_of_text (h "prompt" (by decide))
  have htemplate := textOption_of_text (h "template" (by decide))
  unfold custom described
  rw [placeOf_of_text (h "path" (by decide)), hprompt, htemplate, hof,
    customSuffix_of_text (h "suffix" (by decide))]
  rfl

theorem name_described (s : Settings) (base : Text) (e : Entry) :
    (described s base e).name = e.name := by
  unfold described
  split <;> rfl

/-- What is worded gives an artifact. -/
theorem usable_of_worded {e : Entry} (h : e.Worded) : e.Usable where
  template := h "template" (by decide)
  prompt _ := h "prompt" (by decide)
  path _ hset := by
    rcases h "path" (by decide) with hnull | htext
    · rw [hnull] at hset
      cases hset
    · exact htext

/-! ## All entries -/

/-- The artifacts of a table as the entries ask for them: one for every name, the built-in kinds
first, in their own order, then the others in the order of their first entries; and each as its
first entry describes it. -/
structure Resolved (s : Settings) (base : Text) (entries : List Entry) (as : List Artifact) :
    Prop where
  onePerName : OnePerName entries as
  order : as.map Artifact.name =
    (Kind.builtin.map Kind.name).filter (· ∈ entries.map Entry.name) ++
      (entries.map Entry.name).eraseDups.filter (· ∉ Kind.builtin.map Kind.name)
  described : ∀ a ∈ as, ∃ e,
    entries.find? (·.name = a.name) = some e ∧ a = Artifact.described s base e

/-- An artifact comes from the first entry of its name. -/
theorem described_of_mem {s : Settings} {base : Text} {entries : List Entry} {as : List Artifact}
    (hworded : ∀ e ∈ entries, e.Worded) (h : resolve s entries base = .ok as) {a : Artifact}
    (ha : a ∈ as) :
    ∃ e, entries.find? (·.name = a.name) = some e ∧ a = described s base e := by
  rw [resolve_eq] at h
  obtain ⟨builtins, hbuiltins, h⟩ := except_bind_ok_iff.mp h
  obtain ⟨customs, hcustoms, h⟩ := except_bind_ok_iff.mp h
  cases h
  -- A built-in artifact is looked up by its kind, a custom one is met in the list; both come from
  -- the first entry of their name.
  rcases List.mem_append.mp ha with hmem | hmem
  · obtain ⟨kind, hkind, hbuilt⟩ := mem_of_filterMapM_ok hbuiltins hmem
    unfold builtin? at hbuilt
    rw [find?_distinctOn] at hbuilt
    cases hfirst : entries.find? (·.name = kind.name) with
    | none =>
      rw [hfirst] at hbuilt
      cases hbuilt
    | some e =>
      have hname : e.name = kind.name := of_decide_eq_true (List.find?_some hfirst :)
      have hof := kindOf?_eq_some_iff.mpr ⟨hkind, hname.symm⟩
      rw [hfirst] at hbuilt
      simp only [builtin_described (hworded e (List.mem_of_find?_eq_some hfirst)) hof] at hbuilt
      cases hbuilt
      rw [name_described, hname]
      exact ⟨e, hfirst, rfl⟩
  · obtain ⟨e, he, hbuilt⟩ := mem_of_mapM_ok hcustoms hmem
    obtain ⟨hkept, hof⟩ := List.mem_filter.mp he
    have hfirst := mem_distinctOn_iff.mp hkept
    rw [custom_described (hworded e (List.mem_of_find?_eq_some hfirst))
      (Option.isNone_iff_eq_none.mp hof)] at hbuilt
    cases hbuilt
    rw [name_described]
    exact ⟨e, hfirst, rfl⟩

/-- Worded entries give the artifacts that they ask for. -/
theorem resolve_resolved {s : Settings} {base : Text} {entries : List Entry}
    (hworded : ∀ e ∈ entries, e.Worded) :
    ∃ as, resolve s entries base = .ok as ∧ Resolved s base entries as := by
  have husable : AllUsable entries := fun e he =>
    usable_of_worded (hworded e ((distinctOn_sublist Entry.name entries).subset he))
  obtain ⟨as, h⟩ := resolve_ok_iff.mpr husable
  refine ⟨as, h, resolve_onePerName h, ?_, fun a => described_of_mem hworded h⟩
  rw [resolve_names h, map_distinctOn]
  simp only [List.mem_eraseDups]

/-! ## Other lists of entries -/

/-- Of the items with their names, those of built-in kinds stand in other places: all others stay
in their order, and so do those of one kind. -/
structure Moved {α : Type} (name : α → Text) (xs ys : List α) : Prop where
  others : ys.filter (fun x => name x ∉ Kind.builtin.map Kind.name) =
    xs.filter fun x => name x ∉ Kind.builtin.map Kind.name
  sameKind : ∀ kind ∈ Kind.builtin,
    ys.filter (fun x => name x = kind.name) = xs.filter fun x => name x = kind.name

section

variable {α β : Type} {name : α → Text} {xs ys : List α}

/-- Moving twice is moving. -/
theorem Moved.trans {zs : List α} (h : Moved name xs ys) (h' : Moved name ys zs) :
    Moved name xs zs where
  others := h'.others.trans h.others
  sameKind kind hkind := (h'.sameKind kind hkind).trans (h.sameKind kind hkind)

/-- An item of a built-in kind can change places with a neighbour of another name. -/
theorem Moved.swap {x y : α} (hne : name x ≠ name y)
    (hbuiltin : name x ∈ Kind.builtin.map Kind.name ∨ name y ∈ Kind.builtin.map Kind.name)
    (before after : List α) :
    Moved name (before ++ x :: y :: after) (before ++ y :: x :: after) := by
  have hfilter : ∀ p : α → Bool, ¬ (p x = true ∧ p y = true) →
      (before ++ y :: x :: after).filter p = (before ++ x :: y :: after).filter p := by
    intro p hnot
    by_cases hx : p x = true
    · have hy : ¬ p y = true := fun hy => hnot ⟨hx, hy⟩
      simp [hx, hy]
    · simp [List.filter_cons, hx]
  refine ⟨hfilter _ fun hboth => ?_, fun kind _ => hfilter _ fun hboth => hne ?_⟩
  · rcases hbuiltin with hx | hy
    · exact of_decide_eq_true hboth.1 hx
    · exact of_decide_eq_true hboth.2 hy
  · exact (of_decide_eq_true hboth.1).trans (of_decide_eq_true hboth.2).symm

/-- The first item of a name stays the first. -/
theorem Moved.find?_eq (h : Moved name xs ys) (wanted : Text) :
    ys.find? (fun x => name x = wanted) = xs.find? fun x => name x = wanted := by
  by_cases hbuiltin : wanted ∈ Kind.builtin.map Kind.name
  · obtain ⟨kind, hkind, rfl⟩ := List.mem_map.mp hbuiltin
    rw [← List.head?_filter, h.sameKind kind hkind, List.head?_filter]
  · -- The items of the name are among the others.
    have hamong : ∀ zs : List α, zs.find? (fun x => name x = wanted) =
        (zs.filter fun x => name x ∉ Kind.builtin.map Kind.name).find?
          fun x => name x = wanted := by
      intro zs
      rw [List.find?_filter]
      congr 1
      funext x
      by_cases hx : name x = wanted <;> simp [hx, hbuiltin]
    rw [hamong, h.others, ← hamong]

theorem Moved.mem_names_iff (h : Moved name xs ys) {wanted : Text} :
    wanted ∈ ys.map name ↔ wanted ∈ xs.map name := by
  have hfound : ∀ zs : List α, wanted ∈ zs.map name ↔
      (zs.find? fun x => name x = wanted).isSome = true := by
    intro zs
    simp
  rw [hfound, h.find?_eq, ← hfound]

/-- What is moved is moved by its names. -/
theorem Moved.map {f : β → α} {xs ys : List β} (h : Moved (fun x => name (f x)) xs ys) :
    Moved name (xs.map f) (ys.map f) where
  others := by
    rw [List.filter_map, List.filter_map]
    exact congrArg (List.map f) h.others
  sameKind kind hkind := by
    rw [List.filter_map, List.filter_map]
    exact congrArg (List.map f) (h.sameKind kind hkind)

end

/-- Where the built-in kinds are asked for does not matter. -/
theorem resolve_moved {s : Settings} {base : Text} {entries entries' : List Entry}
    (h : Moved Entry.name entries entries') :
    resolve s entries' base = resolve s entries base := by
  have hbuiltin : builtin? s base (distinctOn Entry.name entries') =
      builtin? s base (distinctOn Entry.name entries) := by
    funext kind
    unfold builtin?
    rw [find?_distinctOn, find?_distinctOn, h.find?_eq]
  have hcustom : (distinctOn Entry.name entries').filter (fun e => (kindOf? e).isNone) =
      (distinctOn Entry.name entries).filter fun e => (kindOf? e).isNone := by
    simp only [isNone_kindOf?]
    rw [← distinctOn_filter Entry.name fun name => name ∉ Kind.builtin.map Kind.name, h.others,
      distinctOn_filter Entry.name fun name => name ∉ Kind.builtin.map Kind.name]
  rw [resolve_eq, resolve_eq]
  dsimp only
  rw [hbuiltin, hcustom]

/-- Asking for a name again does not matter. -/
theorem resolve_append {s : Settings} {base : Text} {entries more : List Entry}
    (h : ∀ e ∈ more, e.name ∈ entries.map Entry.name) :
    resolve s (entries ++ more) base = resolve s entries base := by
  rw [resolve_eq, resolve_eq, distinctOn_append_of_known h]

end Artifact

end Scaffold
