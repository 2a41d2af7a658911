import Scaffold.Proofs.Ordered
import Scaffold.Proofs.Stub.Parts
import Scaffold.Proofs.Stub.Rendering

/-!
# One pass over a template

Tokens are replaced one after another, also in what an earlier replacement brought in. Where the
braces of a template are in order and no value can make a token with what stands around it
(`Inert`), this comes to one pass over the template (`onePass`), which does not look at what it puts
in: on its parts both do the same (`fillFrom_eq`, `substitute_eq`), because a filled template splits
again (`Splits.filled`). The bundled stubs and the skeletons are in order and hold no tokens but
those that are replaced, so no double braces are left in what is rendered from them.

The order in which tokens are replaced is then of no consequence, and a value that holds the text of
a token in single braces is left as it is. A template with three braces in a row is not in order:
which two of them open a token depends on the order of the replacements.

The induction is over the replacements, with the template split into the parts that are filled
already and those that are not.
-/

namespace Scaffold.Stub

/-! ## One pass -/

/-- A text with each token replaced where it stands, read once from the left; `skip` code points at
its start belong to a token that is already replaced. -/
def fillFrom (values : Ordered Text) : (skip : Nat) → Text → Text
  | _, [] => []
  | skip + 1, _ :: t => fillFrom values skip t
  | 0, c :: t =>
    match values.find? fun r => Text.startsWith (c :: t) r.1 with
    | some (key, value) => value ++ fillFrom values (key.length - 1) t
    | none => c :: fillFrom values 0 t

/-- A template with every token of its own that has a value replaced by it. -/
def onePass (values : Ordered Text) (template : Text) : Text := fillFrom values 0 template

/-- Code points to be passed over may be dropped. -/
theorem fillFrom_drop (values : Ordered Text) (skip : Nat) (t : Text) :
    fillFrom values skip t = fillFrom values 0 (t.drop skip) := by
  induction t generalizing skip with
  | nil => simp [fillFrom]
  | cons c t ih =>
    cases skip with
    | zero => rfl
    | succ skip => exact ih skip

/-- Replacing one token is a pass with one value. -/
theorem replaceFrom_eq_fillFrom (key value : Text) (skip : Nat) (t : Text) :
    Text.replaceFrom key value skip t = fillFrom [(key, value)] skip t := by
  induction t generalizing skip with
  | nil => cases skip <;> rfl
  | cons c t ih =>
    cases skip with
    | succ skip => exact ih skip
    | zero =>
      rw [Text.replaceFrom, fillFrom, List.find?_cons, ih, ih]
      split
      next h => simp [h]
      next h => simp [h]

/-! ## A pass over parts -/

/-- What a part becomes in one pass. -/
def Part.filled (values : Ordered Text) : Part → Text
  | .point c => [c]
  | .token name => (Ordered.get? values (tokenOf name)).getD (tokenOf name)

section

variable {values : Ordered Text} {P : Text → Prop}

/-- Where two opening braces do not stand, there is nothing to replace. -/
theorem fillFrom_point (hkeys : AreTokens (Ordered.keys values)) {c : CodePoint} {t : Text}
    (h : c = openBrace → t.head? ≠ some openBrace) :
    fillFrom values 0 (c :: t) = c :: fillFrom values 0 t := by
  have hnone : (values.find? fun r => Text.startsWith (c :: t) r.1) = none := by
    rw [List.find?_eq_none]
    intro r hr hstart
    obtain ⟨name, _, hkey⟩ := hkeys.name (List.mem_map_of_mem hr)
    obtain ⟨rest, hrest⟩ := Text.startsWith_iff.mp hstart
    rw [hkey] at hrest
    obtain ⟨rfl, rfl⟩ := List.cons.inj hrest
    exact h rfl rfl
  rw [fillFrom, hnone]

/-- Where no opening brace stands, there is nothing to replace. -/
theorem fillFrom_free (hkeys : AreTokens (Ordered.keys values)) {free : Text}
    (h : openBrace ∉ free) (rest : Text) :
    fillFrom values 0 (free ++ rest) = free ++ fillFrom values 0 rest := by
  induction free with
  | nil => rfl
  | cons c free ih =>
    obtain ⟨hc, hfree⟩ := not_or.mp (mt List.mem_cons.mpr h)
    rw [List.cons_append, fillFrom_point hkeys (fun heq => absurd heq.symm hc), ih hfree]
    rfl

/-- At a token, the value under it is found. -/
theorem find?_at_token (hkeys : AreTokens (Ordered.keys values)) {name : Text}
    (hname : IsName name) (rest : Text) :
    (values.find? fun r => Text.startsWith (tokenOf name ++ rest) r.1) =
      (Ordered.get? values (tokenOf name)).map fun value => (tokenOf name, value) := by
  induction values with
  | nil => rfl
  | cons r values ih =>
    obtain ⟨key, value⟩ := r
    obtain ⟨k, hk, rfl⟩ := hkeys.name (List.mem_cons_self ..)
    rw [List.find?_cons, ih fun key hkey => hkeys key (List.mem_cons_of_mem _ hkey), Ordered.get?]
    by_cases heq : k = name
    · subst heq
      rw [if_pos rfl, Text.startsWith_iff.mpr (List.prefix_append ..)]
      rfl
    · have hne : tokenOf k ≠ tokenOf name := fun h => heq (tokenOf_injective h)
      have hno : Text.startsWith (tokenOf name ++ rest) (tokenOf k) = false := by
        rw [Bool.eq_false_iff, Ne, Text.startsWith_iff, tokenOf_prefix_iff hk hname]
        exact heq
      rw [if_neg hne, hno]

/-- A token is replaced by its value, or stays as it is. -/
theorem fillFrom_token (hkeys : AreTokens (Ordered.keys values)) {name : Text}
    (hname : IsName name) (rest : Text) :
    fillFrom values 0 (tokenOf name ++ rest) =
      (Part.token name).filled values ++ fillFrom values 0 rest := by
  have hfind := find?_at_token hkeys hname rest
  rw [Part.filled, tokenOf_append]
  rw [tokenOf_append] at hfind
  cases hget : Ordered.get? values (tokenOf name) with
  | some value =>
    rw [hget, Option.map_some] at hfind
    rw [fillFrom, hfind, Option.getD_some]
    show value ++ fillFrom values _ _ = _
    rw [fillFrom_drop]
    simp [tokenOf]
  | none =>
    rw [hget, Option.map_none] at hfind
    rw [fillFrom, hfind, Option.getD_none]
    -- No token begins at the second brace, since a name or a closing brace follows it.
    have hsecond : (name ++ closeBrace :: closeBrace :: rest).head? ≠ some openBrace := by
      intro hhead
      cases name with
      | nil => exact openBrace_ne_closeBrace (Option.some.inj hhead).symm
      | cons c name =>
        obtain rfl : c = openBrace := Option.some.inj hhead
        exact hname.1 (List.mem_cons_self ..)
    have hfree : openBrace ∉ name ++ [closeBrace, closeBrace] := by
      simp [hname.1, openBrace_ne_closeBrace]
    have hrest := fillFrom_free hkeys hfree rest
    rw [List.append_assoc, List.cons_append, List.singleton_append] at hrest
    show openBrace :: fillFrom values 0 _ = _
    rw [fillFrom_point hkeys fun _ => hsecond, hrest]
    rfl

/-- A pass over a template fills its parts. -/
theorem fillFrom_eq (hkeys : AreTokens (Ordered.keys values)) {t : Text} {parts : List Part}
    (h : Splits P t parts) :
    fillFrom values 0 t = parts.flatMap (Part.filled values) := by
  induction h with
  | nil => rfl
  | point h _ ih =>
    rw [fillFrom_point hkeys h, ih]
    rfl
  | token hname _ _ ih => rw [fillFrom_token hkeys hname, ih, List.flatMap_cons]

/-! ## Filled templates -/

/-- A value that makes no token with what stands around it: it holds no double braces, and no
opening brace ends it. -/
structure Inert (value : Text) : Prop where
  inside : ¬ [openBrace, openBrace] <:+: value
  last : value.getLast? ≠ some openBrace

instance (value : Text) : Decidable (Inert value) :=
  decidable_of_iff (¬ Text.contains value [openBrace, openBrace] = true ∧
      value.getLast? ≠ some openBrace)
    ⟨fun h => ⟨mt Text.contains_iff.mpr h.1, h.2⟩,
      fun h => ⟨mt Text.contains_iff.mp h.inside, h.last⟩⟩

/-- The parts that a part becomes in one pass. -/
def Part.refilled (values : Ordered Text) : Part → List Part
  | .point c => [.point c]
  | .token name =>
    match Ordered.get? values (tokenOf name) with
    | some value => value.map .point
    | none => [.token name]

/-- Points take up an inert value. -/
theorem Splits.append {value : Text} (hvalue : Inert value) {t : Text} {parts : List Part}
    (h : Splits P t parts) : Splits P (value ++ t) (value.map .point ++ parts) := by
  induction value with
  | nil => exact h
  | cons c value ih =>
    obtain ⟨hinside, hlast⟩ := hvalue
    cases value with
    | nil => exact .point (fun heq => absurd (congrArg some heq) hlast) h
    | cons d value =>
      rw [List.getLast?_cons_cons] at hlast
      refine .point ?_ (ih ⟨fun hin => hinside (hin.trans (List.suffix_cons ..).isInfix), hlast⟩)
      rintro rfl heq
      obtain rfl : d = openBrace := Option.some.inj heq
      exact hinside ⟨[], value, rfl⟩

/-- A template that no opening brace begins is begun by none once it is filled. -/
theorem Splits.head?_filled {t : Text} {parts : List Part} (h : Splits P t parts)
    (hhead : t.head? ≠ some openBrace) (values : Ordered Text) :
    (parts.flatMap (Part.filled values)).head? ≠ some openBrace := by
  cases h with
  | nil => exact hhead
  | point _ _ => exact hhead
  | token _ _ _ => exact absurd rfl hhead

/-- A template filled with inert values splits again, and no token is left that has a value. -/
theorem Splits.filled (hvalues : ∀ r ∈ values, Inert r.2) {t : Text} {parts : List Part}
    (h : Splits P t parts) :
    Splits (fun name => P name ∧ tokenOf name ∉ Ordered.keys values)
      (parts.flatMap (Part.filled values)) (parts.flatMap (Part.refilled values)) := by
  induction h with
  | nil => exact .nil
  -- A single brace stands before no token, so nothing is put in right after it.
  | point h hrest ih => exact .point (fun heq => hrest.head?_filled (h heq) values) ih
  | @token name t parts hname hP _ ih =>
    rw [List.flatMap_cons, List.flatMap_cons, Part.filled, Part.refilled]
    cases hget : Ordered.get? values (tokenOf name) with
    | some value => exact .append (hvalues _ (Ordered.mem_of_get? hget)) ih
    | none =>
      refine .token hname ⟨hP, fun hmem => ?_⟩ ih
      rw [← Ordered.get?_isSome_iff, hget] at hmem
      cases hmem

/-- A part that was filled with the first value and then with the others was filled with all. -/
theorem Part.filled_refilled (r : Text × Text) (rs : Ordered Text) (part : Part) :
    (part.refilled [r]).flatMap (Part.filled rs) = part.filled (r :: rs) := by
  cases part with
  | point c => rfl
  | token name =>
    obtain ⟨key, value⟩ := r
    rw [refilled, filled]
    by_cases hkey : key = tokenOf name
    · have hpoints : (value.map Part.point).flatMap (Part.filled rs) = value := by
        simp [List.flatMap_map, filled]
      rw [Ordered.get?, if_pos hkey, Ordered.get?, if_pos hkey]
      exact hpoints
    · rw [Ordered.get?, if_neg hkey, Ordered.get?_nil, Ordered.get?, if_neg hkey]
      exact List.append_nil _

/-- Without values, the parts make up the template. -/
theorem Splits.filled_nil {t : Text} {parts : List Part} (h : Splits P t parts) :
    parts.flatMap (Part.filled []) = t := by
  induction h with
  | nil => rfl
  | point _ _ ih => rw [List.flatMap_cons, ih]; rfl
  | token _ _ _ ih => rw [List.flatMap_cons, ih]; rfl

/-- Replacing one token after another fills the parts of a template, if all values are inert. -/
theorem substitute_eq (hkeys : AreTokens (Ordered.keys values))
    (hvalues : ∀ r ∈ values, Inert r.2) {t : Text} {parts : List Part} (h : Splits P t parts) :
    substitute t values = parts.flatMap (Part.filled values) := by
  -- What the first value fills splits again, into the parts that the others are to fill.
  induction values generalizing P t parts with
  | nil => exact h.filled_nil.symm
  | cons r rs ih =>
    obtain ⟨hkey, hkeys⟩ := List.forall_mem_cons.mp hkeys
    obtain ⟨hvalue, hvalues⟩ := List.forall_mem_cons.mp hvalues
    have hone : AreTokens (Ordered.keys [r]) := List.forall_mem_singleton.mpr hkey
    have hfirst : Text.replace t r.1 r.2 = parts.flatMap (Part.filled [r]) := by
      rw [← fillFrom_eq hone h, ← replaceFrom_eq_fillFrom, show r.1 = _ from hkey.2]
      rfl
    have hagain := h.filled (List.forall_mem_singleton.mpr hvalue)
    calc substitute t (r :: rs)
        = substitute (parts.flatMap (Part.filled [r])) rs := by rw [← hfirst]; rfl
      _ = (parts.flatMap (Part.refilled [r])).flatMap (Part.filled rs) := ih hkeys hvalues hagain
      _ = parts.flatMap (Part.filled (r :: rs)) := by
          rw [List.flatMap_assoc]
          exact congrArg parts.flatMap (funext (Part.filled_refilled r rs))

end

/-! ## Stubs and skeletons -/

/-- Letters and underscores, of which the names in tokens are made. -/
def IsLettered (name : Text) : Prop :=
  ∀ c ∈ name, c.isLower = true ∨ c.isUpper = true ∨ c = .char '_'

instance (name : Text) : Decidable (IsLettered name) :=
  inferInstanceAs (Decidable (∀ c ∈ name, _ ∨ _ ∨ _))

section

variable (namespaces : Ordered Text) (a : Artifact) (m : Schema.Metadata)

/-- Every key that is replaced is the token of a name. -/
theorem areTokens_replacements : AreTokens (Ordered.keys (replacements namespaces a m)) := by
  rw [keys_replacements]
  decide +kernel

/-- The names in these tokens are of letters and underscores. -/
theorem isLettered_of_replaced {name : Text}
    (h : tokenOf name ∈ Ordered.keys (replacements namespaces a m)) : IsLettered name := by
  have hall : ∀ key ∈ Ordered.keys (replacements [] default default), IsLettered (nameOf key) := by
    decide +kernel
  rw [keys_replacements] at h
  simpa using hall _ h

/-- The name of a token that is replaced. -/
def IsKnown (name : Text) : Prop :=
  IsLettered name ∧ tokenOf name ∈ Ordered.keys (replacements namespaces a m)

/-- A template that can be read with the tokens there are is in order and holds known ones only. -/
theorem inOrder_of_readable {template : Text}
    (h : readableFrom (Ordered.keys (replacements [] default default)) 0 template = true) :
    InOrder (IsKnown namespaces a m) template := by
  rw [← keys_replacements namespaces a m] at h
  exact (readable_sound (areTokens_replacements namespaces a m) h).mono fun name hname =>
    ⟨isLettered_of_replaced namespaces a m hname, hname⟩

/-- The braces of the bundled stubs are in order, and their tokens are known. -/
theorem bundled_inOrder {stub : Text} (h : stub ∈ bundled.map (·.2)) :
    InOrder (IsKnown namespaces a m) stub := by
  have hall : ∀ stub ∈ bundled.map (·.2),
      readableFrom (Ordered.keys (replacements [] default default)) 0 stub = true := by
    simp only [bundled, modelStub, requestStub, resourceStub, serviceStub, controllerStub, lines,
      List.map_cons, List.map_nil, List.flatMap_cons, List.flatMap_nil, Text.ofString_ofList]
    decide +kernel
  exact inOrder_of_readable namespaces a m (hall stub h)

/-- The braces of the skeletons are in order, and their tokens are known. -/
theorem skeleton_inOrder (kind : Kind) : InOrder (IsKnown namespaces a m) (skeleton kind) := by
  apply inOrder_of_readable
  cases kind <;>
    simp only [skeleton, modelSkeleton, requestSkeleton, resourceSkeleton, serviceSkeleton,
      controllerSkeleton, customSkeleton, lines, List.flatMap_cons, List.flatMap_nil,
      Text.ofString_ofList] <;>
    decide +kernel

end

/-- Inert values leave no double braces in a template whose tokens are all known. -/
theorem not_infix_substitute {namespaces : Ordered Text} {a : Artifact} {m : Schema.Metadata}
    (hvalues : ∀ r ∈ replacements namespaces a m, Inert r.2) {template : Text}
    (h : InOrder (IsKnown namespaces a m) template) :
    ¬ [openBrace, openBrace] <:+: substitute template (replacements namespaces a m) := by
  obtain ⟨parts, hparts⟩ := inOrder_iff.mp h
  rw [substitute_eq (areTokens_replacements namespaces a m) hvalues hparts]
  exact (hparts.filled hvalues).no_braces fun name hname => hname.2 hname.1.2

/-- Replacing tokens one after another is one pass over the template, for every template in order
and inert values. The bundled stubs and the skeletons are in order and hold known tokens only, so
no double braces are left in what is rendered from them. -/
theorem substitute_is_onePass (namespaces : Ordered Text) (a : Artifact) (m : Schema.Metadata) :
    (∀ stub ∈ bundled.map (·.2), InOrder (IsKnown namespaces a m) stub) ∧
    (∀ kind, InOrder (IsKnown namespaces a m) (skeleton kind)) ∧
    ((∀ r ∈ replacements namespaces a m, Inert r.2) →
      (∀ template, InOrder (fun _ => True) template →
        substitute template (replacements namespaces a m) =
          onePass (replacements namespaces a m) template) ∧
      ∀ stub : Option Text, (∀ template ∈ stub, template ∈ bundled.map (·.2)) →
        ¬ [openBrace, openBrace] <:+: (choose namespaces a m stub).1) := by
  have hstubs := fun stub (h : stub ∈ bundled.map (·.2)) => bundled_inOrder namespaces a m h
  have hskeletons := skeleton_inOrder namespaces a m
  refine ⟨hstubs, hskeletons, fun hvalues => ⟨?_, ?_⟩⟩
  · intro template h
    obtain ⟨parts, hparts⟩ := inOrder_iff.mp h
    have hkeys := areTokens_replacements namespaces a m
    rw [substitute_eq hkeys hvalues hparts, onePass, fillFrom_eq hkeys hparts]
  · intro stub h
    have hleast := not_infix_substitute hvalues (hskeletons a.kind)
    cases stub with
    | none =>
      rw [choose_none]
      dsimp only
      exact hleast
    | some template =>
      have hfilled := not_infix_substitute hvalues (hstubs template (h template rfl))
      -- A stub that does not declare its class once it is filled gives way to the skeleton; either
      -- is free of double braces.
      rw [choose_some, apply_ite Prod.fst]
      dsimp only
      split
      next => exact hfilled
      next => exact hleast

/-- A method brings in braces of its own, and a token that is not known stays as it is. -/
theorem substitute_is_onePass_posts :
    let a : Artifact := { kind := .model, name := "model", className := "Post", target := default }
    let m : Schema.Metadata :=
      { tableName := "posts", className := "Post", fillable := ["title", "author_id"]
        relations := [{ localColumn := "author_id", referencedTable := "users" }] }
    let template : Text := Text.concat
      ["class ", token "ArtifactClass", " \x7b\n", token "extra", token "relationships_methods",
        "\x7d\n"]
    (∃ r ∈ replacements [] a m, openBrace ∈ r.2) ∧
      substitute template (replacements [] a m) = onePass (replacements [] a m) template := by
  intro a m template
  have hvalues : ∀ r ∈ replacements [] a m, Inert r.2 := by decide +kernel
  have hmethods : ∃ r ∈ replacements [] a m, openBrace ∈ r.2 := by decide +kernel
  have htokens :
      AreTokens [token "ArtifactClass", token "extra", token "relationships_methods"] := by
    decide
  have htemplate := readable_sound htokens (show readableFrom _ 0 template = true by decide +kernel)
  refine ⟨hmethods, ((substitute_is_onePass [] a m).2.2 hvalues).1 template ?_⟩
  exact htemplate.mono fun _ _ => trivial

end Scaffold.Stub
