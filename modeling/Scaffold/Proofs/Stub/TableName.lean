import Scaffold.Proofs.Artifact.Standard
import Scaffold.Proofs.Php.Literals
import Scaffold.Proofs.Stub.Pieces

/-!
# The name of the table in generated code

The templates of models and services put the name of the table between quotes as it is, where other
values are written as literals with their escapes. So what stands there is a literal of the name
exactly if the name is verbatim (`table_literal_iff`). A quote in the name ends the literal early,
and what follows the quote in the name becomes code (`table_escapes_literal`).

The three places are one structure with their own text before and after the name (`Place`), and one
lemma serves them all (`holds_iff`). A name is verbatim if it has no quote, no backslash before a
quote or a backslash, and none at its end.
-/

namespace Scaffold.Stub

open Php (literal? Verbatim)

/-- A place in a template where the name of the table stands between quotes: what opens it, and what
follows the literal. -/
structure Place where
  template : Text
  opening : Text
  closing : Text

namespace Place

/-- The place of the table in the stub of models. -/
def inModelStub : Place := ⟨modelStub, "    protected $table = ", ";"⟩

/-- The place of the table in the skeleton of models. -/
def inModelSkeleton : Place := ⟨modelSkeleton, "    protected $table = ", ";"⟩

/-- The place of the table in the stub of services. -/
def inServiceStub : Place := ⟨serviceStub, " $data[$column]->store(", ")"⟩

/-- The places where the name of the table stands between quotes. -/
def all : List Place := [inModelStub, inModelSkeleton, inServiceStub]

/-- The name of the table stands between quotes at the place, and nowhere before it is the place
opened. -/
def IsQuoted (p : Place) : Prop :=
  Untouched p.opening ∧ openBrace ∉ p.closing ∧ ∃ before after,
    Text.cutAt p.opening p.template =
      some (before, .char '\'' :: (tokenOf "table" ++ .char '\'' :: (p.closing ++ after)))

/-- In a text that the template was filled to, there is a literal of a value at the place, and what
follows it is what follows the literal in the template. -/
def Holds (p : Place) (values : Ordered Text) (text value : Text) : Prop :=
  ∃ before after, Text.cutAt p.opening p.template = some (before, after) ∧
    text = substitute before values ++ p.opening ++ substitute after values ∧
    ∃ rest, literal? (substitute after values) = some (value, p.closing ++ rest)

/-- The place is looked for, and then what should stand at it. -/
theorem isQuoted_of_found {p : Place} (hopening : Untouched p.opening)
    (hclosing : openBrace ∉ p.closing)
    (hfound : ((Text.cutAt p.opening p.template).bind fun parts =>
      Text.dropStart? (.char '\'' :: (tokenOf "table" ++ .char '\'' :: p.closing))
        parts.2).isSome = true) : p.IsQuoted := by
  obtain ⟨after, hfound⟩ := Option.isSome_iff_exists.mp hfound
  obtain ⟨⟨before, text⟩, hcut, hdrop⟩ := Option.bind_eq_some_iff.mp hfound
  dsimp only at hdrop
  refine ⟨hopening, hclosing, before, after, ?_⟩
  rw [hcut, Text.eq_append_of_dropStart? hdrop]
  simp

/-- Every place puts the name between quotes. -/
theorem isQuoted {p : Place} (h : p ∈ all) : p.IsQuoted := by
  have hall : ∀ p ∈ all, p.opening.head? = some (.char ' ') ∧
      openBrace ∉ p.opening ∧ openBrace ∉ p.closing ∧
      ((Text.cutAt p.opening p.template).bind fun parts =>
        Text.dropStart? (.char '\'' :: (tokenOf "table" ++ .char '\'' :: p.closing))
          parts.2).isSome = true := by
    simp only [all, inModelStub, inModelSkeleton, inServiceStub, modelStub, modelSkeleton,
      serviceStub, lines, List.flatMap_cons, List.flatMap_nil, Text.ofString_ofList]
    decide +kernel
  obtain ⟨hhead, hopening, hclosing, hfound⟩ := hall p h
  obtain ⟨rest, hrest⟩ := List.head?_eq_some_iff.mp hhead
  exact isQuoted_of_found ⟨⟨_, rest, hrest, by decide⟩, hopening⟩ hclosing hfound

variable {p : Place} {m : Schema.Metadata}

/-- At a place of the table, the filled template has the name between quotes. -/
theorem IsQuoted.filled (h : p.IsQuoted) (hname : openBrace ∉ m.tableName)
    (namespaces : Ordered Text) (a : Artifact) :
    ∃ before after rest, Text.cutAt p.opening p.template = some (before, after) ∧
      substitute p.template (replacements namespaces a m) =
        substitute before (replacements namespaces a m) ++ p.opening ++
          substitute after (replacements namespaces a m) ∧
      substitute after (replacements namespaces a m) =
        .char '\'' :: (m.tableName ++ .char '\'' :: (p.closing ++ rest)) := by
  obtain ⟨hopening, hclosing, before, after, hcut⟩ := h
  have hkeys := areTokens_replacements namespaces a m
  refine ⟨before, _, substitute after (replacements namespaces a m), hcut, ?_, ?_⟩
  · rw [Text.eq_of_cutAt hcut]
    exact substitute_untouched (fun r hr => isToken_of_mem hr) hopening before _
  · have hquote : Inert [.char '\''] := by decide
    have hend : Inert (.char '\'' :: p.closing) :=
      Inert.of_free (List.not_mem_cons_of_ne_of_not_mem (by decide) hclosing)
    have htable : Ordered.get? (replacements namespaces a m) (tokenOf "table") =
        some m.tableName := rfl
    have hfirst := substitute_inert hkeys hquote
      (tokenOf "table" ++ .char '\'' :: (p.closing ++ after))
    have hlast := substitute_inert hkeys hend after
    rw [List.singleton_append, List.singleton_append] at hfirst
    rw [List.cons_append, List.cons_append] at hlast
    rw [hfirst, substitute_token hkeys (by decide) htable (Inert.of_free hname), hlast]

/-- What stands at a place is a literal of the name exactly if the name is verbatim. -/
theorem holds_iff (h : p.IsQuoted) (hname : openBrace ∉ m.tableName) (namespaces : Ordered Text)
    (a : Artifact) :
    p.Holds (replacements namespaces a m)
      (substitute p.template (replacements namespaces a m)) m.tableName ↔
        Verbatim m.tableName := by
  obtain ⟨before, after, rest, hcut, htext, hafter⟩ := h.filled hname namespaces a
  constructor
  · rintro ⟨before', after', hcut', _, rest', hliteral⟩
    obtain ⟨rfl, rfl⟩ := Prod.mk.inj (Option.some.inj (hcut.symm.trans hcut'))
    rw [hafter, Php.literal?_verbatim_iff] at hliteral
    exact hliteral.1
  · intro hverbatim
    refine ⟨before, after, hcut, htext, rest, ?_⟩
    rw [hafter, Php.literal?_verbatim_iff]
    exact ⟨hverbatim, rfl⟩

end Place

/-- What is rendered for a model comes from one of its two templates. -/
theorem choose_model (namespaces : Ordered Text) {a : Artifact} (m : Schema.Metadata)
    (h : a.kind = .model) {stub : Option Text} (hstub : stub ∈ [some modelStub, none]) :
    ∃ p ∈ [Place.inModelStub, Place.inModelSkeleton],
      (choose namespaces a m stub).1 = substitute p.template (replacements namespaces a m) := by
  have hmodel : modelStub = Place.inModelStub.template := rfl
  have hskeleton : skeleton a.kind = Place.inModelSkeleton.template := by rw [h]; rfl
  have hleast : Place.inModelSkeleton ∈ [Place.inModelStub, Place.inModelSkeleton] := by simp
  simp only [List.mem_cons, List.not_mem_nil, or_false] at hstub
  rcases hstub with rfl | rfl
  · rw [choose_some]
    split
    next =>
      refine ⟨.inModelStub, List.mem_cons_self .., ?_⟩
      rw [hmodel]
    next =>
      refine ⟨.inModelSkeleton, hleast, ?_⟩
      rw [hskeleton]
  · refine ⟨.inModelSkeleton, hleast, ?_⟩
    rw [choose_none, hskeleton]

/-- In a model and in a service the name of the table is a literal with what should follow it
exactly if the name is verbatim, for every name without braces and whatever else the metadata hold.
Every model is rendered from a template with such a place, and so is every service with a stub. -/
theorem table_literal_iff (namespaces : Ordered Text) (a : Artifact) {m : Schema.Metadata}
    (hname : openBrace ∉ m.tableName) :
    (∀ p ∈ Place.all,
      p.Holds (replacements namespaces a m)
        (substitute p.template (replacements namespaces a m)) m.tableName ↔
          Verbatim m.tableName) ∧
    (a.kind = .model → ∀ stub ∈ [some modelStub, none],
      ∃ p ∈ [Place.inModelStub, Place.inModelSkeleton],
        (choose namespaces a m stub).1 = substitute p.template (replacements namespaces a m)) ∧
    (IsClassName a.className → (choose namespaces a m (some serviceStub)).1 =
      substitute Place.inServiceStub.template (replacements namespaces a m)) := by
  refine ⟨fun p hp => Place.holds_iff (Place.isQuoted hp) hname namespaces a,
    fun hkind stub hstub => choose_model namespaces m hkind hstub, fun hclass => ?_⟩
  exact choose_bundled namespaces m hclass (by simp [bundled])

/-- Backslashes stand for themselves where no other one follows. -/
theorem table_literal_iff_archive :
    let m : Schema.Metadata := { tableName := "archive\\posts", className := "Post" }
    let a : Artifact := Artifact.standard {} "Post" .service
    openBrace ∉ m.tableName ∧ Place.inServiceStub.Holds (replacements [] a m)
      (substitute serviceStub (replacements [] a m)) m.tableName := by
  intro m a
  have hname : openBrace ∉ m.tableName := by decide
  have hverbatim : Verbatim m.tableName := by decide
  obtain ⟨hholds, _⟩ := table_literal_iff [] a hname
  exact ⟨hname, (hholds .inServiceStub (by simp [Place.all])).mpr hverbatim⟩

/-- A quote in the name of the table ends its literal. -/
theorem table_escapes_literal :
    let m := Schema.Metadata.derive "o'brien" [{ name := "id" }, { name := "title" }] [] []
    let a := Artifact.standard {} m.className .model
    ((Text.cutAt "protected $table = " (choose [] a m (some modelStub)).1).bind
      fun parts => (literal? parts.2).map (·.1)) = some "o" := by
  decide +kernel

end Scaffold.Stub
