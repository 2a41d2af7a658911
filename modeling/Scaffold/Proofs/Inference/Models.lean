import Scaffold.Inference.Models
import Scaffold.Proofs.Json.Bytes
import Scaffold.Proofs.Json.Sorting

/-!
# When a list of models can be read

A reply that is no object holds no models, but an object may hold anything as its list of models.
Its names can be told exactly if the list is one of objects and the names that are set have an order
(`modelNames_ok_iff`).

`Listable` puts this as a condition on the value alone. Empty texts and empty objects pass as well,
since there is nothing in them to be read. Which lists of names can be sorted is left as it is: for
names that are all texts there is always an order, and this is the case that can be recognised
without sorting (`listsNamed`).
-/

namespace Scaffold.Inference

open Program (except_bind_ok_iff)

/-- Names are taken from objects only. -/
theorem namesOf_ok_iff {items : List Json} :
    (∃ names, namesOf items = .ok names) ↔ ∀ item ∈ items, ∃ fields, item = .object fields := by
  induction items with
  | nil => exact ⟨fun _ => nofun, fun _ => ⟨[], rfl⟩⟩
  | cons item items ih =>
    rw [List.forall_mem_cons, ← ih]
    cases item with
    | object fields =>
      constructor
      · intro hparts
        obtain ⟨names, h⟩ := hparts
        obtain ⟨rest, hrest, _⟩ := except_bind_ok_iff.mp h
        exact ⟨⟨fields, rfl⟩, rest, hrest⟩
      · intro hparts
        obtain ⟨_, rest, hrest⟩ := hparts
        unfold namesOf
        cases hname : Ordered.get? fields "name" with
        | none => exact ⟨rest, except_bind_ok_iff.mpr ⟨rest, hrest, rfl⟩⟩
        | some name => exact ⟨_, except_bind_ok_iff.mpr ⟨rest, hrest, rfl⟩⟩
    | _ =>
      constructor
      · intro hparts
        cases hparts.choose_spec
      · intro hparts
        cases hparts.1.choose_spec

/-- What an object may hold as its list of models: objects whose names have an order. A text and
an object count as lists of their parts, which are texts, so that they must be empty. -/
def Listable : Json → Prop
  | .list items => (∀ item ∈ items, ∃ fields, item = .object fields) ∧
    ∀ names, namesOf items = .ok names → ∃ sorted, Json.sorted names = .ok sorted
  | .text t => t = []
  | .object fields => fields = []
  | _ => False

/-- The names can be told exactly if each item is an object and the names can be sorted. -/
theorem sortedNames_ok_iff {models : Json} {items : List Json}
    (hitems : modelItems models = .ok items) :
    (∃ names, sortedNames models = .ok names) ↔
      ∃ names sorted, namesOf items = .ok names ∧ Json.sorted names = .ok sorted := by
  unfold sortedNames
  constructor
  · intro hparts
    obtain ⟨result, h⟩ := hparts
    obtain ⟨_, hitems', h⟩ := except_bind_ok_iff.mp h
    rw [hitems] at hitems'
    cases hitems'
    obtain ⟨names, hnames, h⟩ := except_bind_ok_iff.mp h
    cases hsorted : Json.sorted names with
    | ok sorted => exact ⟨names, sorted, hnames, hsorted⟩
    | error cause =>
      rw [hsorted] at h
      cases h
  · intro hparts
    obtain ⟨names, sorted, hnames, hsorted⟩ := hparts
    refine ⟨sorted, except_bind_ok_iff.mpr ⟨items, hitems,
      except_bind_ok_iff.mpr ⟨names, hnames, ?_⟩⟩⟩
    rw [hsorted]
    rfl

/-- Parts that are texts have no names, so there must be none. -/
theorem sortedNames_of_texts {models : Json} {items : List Json}
    (hitems : modelItems models = .ok items) (h : ∀ item ∈ items, ∃ t, item = .text t) :
    (∃ names, sortedNames models = .ok names) ↔ items = [] := by
  rw [sortedNames_ok_iff hitems]
  constructor
  · intro hparts
    obtain ⟨names, _, hnames, _⟩ := hparts
    cases items with
    | nil => rfl
    | cons item items =>
      obtain ⟨t, rfl⟩ := h item (List.mem_cons_self ..)
      cases (namesOf_ok_iff.mp ⟨names, hnames⟩ _ (List.mem_cons_self ..)).choose_spec
  · rintro rfl
    exact ⟨[], [], rfl, rfl⟩

/-- For a list this is being listable. -/
theorem sortedNames_of_list {items : List Json} :
    (∃ names, sortedNames (.list items) = .ok names) ↔ Listable (.list items) := by
  rw [sortedNames_ok_iff rfl]
  constructor
  · intro hparts
    obtain ⟨names, sorted, hnames, hsorted⟩ := hparts
    refine ⟨namesOf_ok_iff.mp ⟨names, hnames⟩, fun names' hnames' => ?_⟩
    rw [hnames] at hnames'
    cases hnames'
    exact ⟨sorted, hsorted⟩
  · intro hparts
    obtain ⟨names, hnames⟩ := namesOf_ok_iff.mpr hparts.1
    obtain ⟨sorted, hsorted⟩ := hparts.2 names hnames
    exact ⟨names, sorted, hnames, hsorted⟩

/-- The names in a list of models can be told exactly if it is one. -/
theorem sortedNames_ok_iff_listable {models : Json} :
    (∃ names, sortedNames models = .ok names) ↔ Listable models := by
  cases models with
  | list items => exact sortedNames_of_list
  | text t =>
    refine (sortedNames_of_texts rfl ?_).trans List.map_eq_nil_iff
    intro item hitem
    obtain ⟨c, _, rfl⟩ := List.mem_map.mp hitem
    exact ⟨[c], rfl⟩
  | object fields =>
    refine (sortedNames_of_texts rfl ?_).trans List.map_eq_nil_iff
    intro item hitem
    obtain ⟨field, _, rfl⟩ := List.mem_map.mp hitem
    exact ⟨field.1, rfl⟩
  | _ =>
    constructor
    · intro hparts
      cases hparts.choose_spec
    · exact False.elim

/-- The models of a reply can be told exactly if it is no object or holds a list of models. -/
theorem modelNames_ok_iff {r : Reply} :
    (∃ names, r.modelNames = .ok names) ↔ ∀ models ∈ r.models?, Listable models := by
  unfold Reply.modelNames
  cases r.models? with
  | none => exact ⟨fun _ => nofun, fun _ => ⟨[], rfl⟩⟩
  | some models =>
    refine sortedNames_ok_iff_listable.trans ?_
    constructor
    · intro h _ hmodels
      cases hmodels
      exact h
    · intro h
      exact h models rfl

/-- Whether a model is among them can be told then, too. -/
theorem hasModel_cases (r : Reply) (model : Text) :
    ((∃ found, r.hasModel model = .ok found) ∧ ∀ models ∈ r.models?, Listable models) ∨
    (∃ fault, r.hasModel model = .error fault) ∧ ¬ ∀ models ∈ r.models?, Listable models := by
  rw [← modelNames_ok_iff]
  unfold Reply.hasModel
  cases r.modelNames with
  | ok names => exact Or.inl ⟨⟨_, rfl⟩, names, rfl⟩
  | error fault =>
    refine Or.inr ⟨⟨fault, rfl⟩, ?_⟩
    intro hparts
    cases hparts.choose_spec

end Scaffold.Inference
