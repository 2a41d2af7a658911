import Scaffold.Proofs.Naming.Words
import Scaffold.Proofs.Source.Declaration
import Scaffold.Stub.Render

/-!
# What a rendered stub declares

Tokens are replaced one after another, and a value may bring in anything, tokens included. What
no replacement can touch is text between blanks that holds no brace: a token begins with a brace
and holds no blank, so no occurrence reaches into such text or begins in it
(`substitute_keeps`). The declaration in a skeleton and in a bundled stub is of this kind once its
own token is replaced, so these declare the class of the artifact once they are filled, whatever the
metadata hold (`declares_filled`). So a bundled stub is never given up for the skeleton
(`choose_bundled`), and every rendered artifact declares its class (`declares_choose`).
-/

namespace Scaffold.Stub

open Source (declares Declares)

/-! ## Tokens and what they cannot touch -/

/-- A key that is looked for in a template: it begins with a brace and holds no blank. -/
def IsToken (key : Text) : Prop :=
  key.head? = some '{' ∧ ∀ c ∈ key, c.isBlank = false

instance (key : Text) : Decidable (IsToken key) := inferInstanceAs (Decidable (_ ∧ _))

/-- Which tokens there are depends on nothing. -/
theorem keys_replacements (namespaces : Ordered Text) (a : Artifact) (m : Schema.Metadata) :
    Ordered.keys (replacements namespaces a m) =
      Ordered.keys (replacements [] default default) := by
  unfold replacements
  simp only [Ordered.keys, List.map_cons, List.map_nil]

/-- Every key that is replaced is a token. -/
theorem isToken_of_mem {namespaces : Ordered Text} {a : Artifact} {m : Schema.Metadata}
    {r : Text × Text} (h : r ∈ replacements namespaces a m) : IsToken r.1 := by
  have hall : ∀ key ∈ Ordered.keys (replacements [] default default), IsToken key := by
    decide +kernel
  apply hall r.1
  rw [← keys_replacements namespaces a m]
  exact List.mem_map_of_mem h

/-- Text that no token can reach into, and in which none begins. -/
def Untouched (t : Text) : Prop :=
  (∃ c rest, t = c :: rest ∧ c.isBlank = true) ∧ CodePoint.char '{' ∉ t

/-- Untouched text stays where it is, and what stands on its sides is replaced by itself. -/
theorem replace_untouched {key mid : Text} (hkey : IsToken key) (hmid : Untouched mid)
    (before after new : Text) :
    Text.replace (before ++ mid ++ after) key new =
      Text.replace before key new ++ mid ++ Text.replace after key new := by
  obtain ⟨⟨c, rest, rfl, hc⟩, hbrace⟩ := hmid
  obtain ⟨hhead, hblank⟩ := hkey
  cases key with
  | nil => cases hhead
  | cons o old =>
    obtain rfl : o = .char '{' := by simpa using hhead
    refine Text.replace_barrier ?_ hbrace before after new
    intro hmem
    rw [hblank c hmem] at hc
    cases hc

/-- Replacements work separately on what stands on the sides of untouched text. -/
theorem substitute_untouched {rs : Ordered Text} (hkeys : ∀ r ∈ rs, IsToken r.1) {mid : Text}
    (hmid : Untouched mid) (before after : Text) :
    substitute (before ++ mid ++ after) rs =
      substitute before rs ++ mid ++ substitute after rs := by
  induction rs generalizing before after with
  | nil => rfl
  | cons r rs ih =>
    obtain ⟨hkey, hkeys⟩ := List.forall_mem_cons.mp hkeys
    have hfirst := replace_untouched hkey hmid before after r.2
    show substitute (Text.replace (before ++ mid ++ after) r.1 r.2) rs = _
    rw [hfirst, ih hkeys]
    rfl

/-- Untouched text survives all replacements. -/
theorem substitute_keeps {mid : Text} (hmid : Untouched mid) (rs : Ordered Text) {t : Text}
    (hkeys : ∀ r ∈ rs, IsToken r.1) (h : mid <:+: t) : mid <:+: substitute t rs := by
  obtain ⟨before, after, rfl⟩ := h
  exact ⟨_, _, (substitute_untouched hkeys hmid before after).symm⟩

/-! ## The declaration in a template -/

/-- What precedes the name in the declaration of a template. -/
def classOpening : Text := "\nclass "

/-- A line of the template declares the class of the artifact, and the name is followed by a space
or ends the line. -/
def HasClassLine (template : Text) : Prop :=
  ∃ before c after, template = before ++ classOpening ++ (token "ArtifactClass" ++ c :: after) ∧
    (c = CodePoint.char ' ' ∨ c = CodePoint.char '\n')

/-- The line is looked for, and only what follows the name is looked at. -/
theorem hasClassLine_of_next {template : Text}
    (hnext : (Text.cutAt (classOpening ++ token "ArtifactClass") template).bind
      (fun parts => parts.2.head?) ∈ [some (CodePoint.char ' '), some (CodePoint.char '\n')]) :
    HasClassLine template := by
  cases hcut : Text.cutAt (classOpening ++ token "ArtifactClass") template with
  | none =>
    rw [hcut] at hnext
    simp at hnext
  | some parts =>
    obtain ⟨before, after⟩ := parts
    rw [hcut, Option.bind_some] at hnext
    cases after with
    | nil => simp at hnext
    | cons c after =>
      refine ⟨before, c, after, ?_, by simpa using hnext⟩
      rw [Text.eq_of_cutAt hcut]
      simp

/-- Every skeleton declares its class on a line that no replacement can touch. -/
theorem skeleton_hasClassLine (kind : Kind) : HasClassLine (skeleton kind) := by
  apply hasClassLine_of_next
  cases kind <;> decide +kernel

/-- Every bundled stub declares its class on a line that no replacement can touch. -/
theorem bundled_hasClassLine {stub : Text} (h : stub ∈ bundled.map (·.2)) :
    HasClassLine stub := by
  have hall : ∀ stub ∈ bundled.map (·.2),
      (Text.cutAt (classOpening ++ token "ArtifactClass") stub).bind
        (fun parts => parts.2.head?) ∈ [some (CodePoint.char ' '), some (CodePoint.char '\n')] := by
    simp only [bundled, modelStub, requestStub, resourceStub, serviceStub, controllerStub, lines,
      List.map_cons, List.map_nil, List.flatMap_cons, List.flatMap_nil, Text.ofString_ofList]
    decide +kernel
  exact hasClassLine_of_next (hall stub h)

/-- The names of classes: letters and digits of ASCII. -/
def IsClassName (name : Text) : Prop := name ≠ [] ∧ ∀ c ∈ name, c.isAlphanumeric = true

instance (name : Text) : Decidable (IsClassName name) := inferInstanceAs (Decidable (_ ∧ _))

/-- The name of a class ends with something that is no blank. -/
theorem IsClassName.last {name : Text} (h : IsClassName name) :
    ∃ init c, name = init ++ [c] ∧ c.isBlank = false := by
  refine ⟨_, _, (List.dropLast_concat_getLast h.1).symm, ?_⟩
  exact CodePoint.isBlank_of_isAlphanumeric (h.2 _ (List.getLast_mem h.1))

/-- The declaration of a class, with the blank before it and the one after it, is untouched by
tokens. -/
theorem untouched_declaration {name : Text} (h : IsClassName name) {c : CodePoint}
    (hc : c = .char ' ' ∨ c = .char '\n') : Untouched (classOpening ++ name ++ [c]) := by
  refine ⟨⟨_, _, rfl, by decide⟩, ?_⟩
  intro hmem
  rcases List.mem_append.mp hmem with hmem | hmem
  · rcases List.mem_append.mp hmem with hmem | hmem
    · revert hmem
      decide
    · exact absurd (h.2 _ hmem) (by decide)
  · obtain rfl : CodePoint.char '{' = c := by simpa using hmem
    rcases hc with hc | hc <;> cases hc

/-- A text with such a declaration in it declares the class. -/
theorem declares_of_declaration {t name : Text} (h : IsClassName name) {c : CodePoint}
    (hc : c = .char ' ' ∨ c = .char '\n') (hin : classOpening ++ name ++ [c] <:+: t) :
    declares t name = true := by
  obtain ⟨before, after, rfl⟩ := hin
  rw [Source.declares_iff h.1]
  refine ⟨before ++ [.char '\n'], Text.ofString "class" ++ [.char ' '] ++ name, c :: after,
    ?_, ?_, ⟨_, ?_, [.char ' '], by simp, ?_, rfl⟩, ?_⟩
  · simp [classOpening, Text.ofString]
  · intro d hd
    obtain rfl : CodePoint.char '\n' = d := by simpa using hd
    decide
  · simp [Source.declarationKeywords]
  · intro d hd
    obtain rfl : d = .char ' ' := by simpa using hd
    decide
  · intro d hd
    obtain rfl : c = d := by simpa using hd
    rcases hc with rfl | rfl <;> decide

/-- One replacement in the line that declares the class: the opening and what follows the name
stay, and what stands for the name is replaced by itself. -/
theorem replace_class_line {key name name' : Text} {c : CodePoint} (hkey : IsToken key)
    (hc : c = .char ' ' ∨ c = .char '\n') (new : Text) (hname : Text.replace name key new = name')
    (before after : Text) :
    Text.replace (before ++ classOpening ++ (name ++ c :: after)) key new =
      Text.replace before key new ++ classOpening ++
        (name' ++ c :: Text.replace after key new) := by
  have hopening : Untouched classOpening := ⟨⟨_, _, rfl, by decide⟩, by decide⟩
  have hsep : Untouched [c] := by
    rcases hc with rfl | rfl <;> exact ⟨⟨_, _, rfl, by decide⟩, by decide⟩
  have hinner := replace_untouched hkey hsep name after new
  rw [List.append_cons name c after, replace_untouched hkey hopening, hinner, hname,
    ← List.append_cons]

/-- A filled template with such a line declares the class of the artifact, whatever the values are:
the first two replacements put the name in its place, and the others cannot touch the line. -/
theorem declares_filled (namespaces : Ordered Text) {a : Artifact} (m : Schema.Metadata)
    (h : IsClassName a.className) {template : Text} (hline : HasClassLine template) :
    declares (substitute template (replacements namespaces a m)) a.className = true := by
  obtain ⟨before, c, after, hsplit, hc⟩ := hline
  obtain ⟨rest, hrest⟩ : ∃ rest, replacements namespaces a m =
      (token "ClassName", m.className) :: (token "ArtifactClass", a.className) :: rest :=
    ⟨_, rfl⟩
  have hkeys : ∀ r ∈ rest, IsToken r.1 := by
    intro r hr
    refine isToken_of_mem (show r ∈ replacements namespaces a m from ?_)
    rw [hrest]
    exact List.mem_cons_of_mem _ (List.mem_cons_of_mem _ hr)
  -- The first token is a different one and leaves the place of the name; the second fills it.
  have hfirst := replace_class_line (show IsToken (token "ClassName") by decide) hc m.className
    (show Text.replace (token "ArtifactClass") _ _ = token "ArtifactClass" from rfl) before after
  have hsecond := replace_class_line (show IsToken (token "ArtifactClass") by decide) hc a.className
    (show Text.replace (token "ArtifactClass") _ _ = a.className ++ [] from rfl)
    (Text.replace before (token "ClassName") m.className)
    (Text.replace after (token "ClassName") m.className)
  refine declares_of_declaration h hc ?_
  rw [hrest, hsplit]
  apply substitute_keeps (untouched_declaration h hc) rest hkeys
  show _ <:+: Text.replace (Text.replace _ (token "ClassName") m.className)
    (token "ArtifactClass") a.className
  rw [hfirst, hsecond, List.append_nil]
  refine ⟨Text.replace (Text.replace before (token "ClassName") m.className)
    (token "ArtifactClass") a.className, Text.replace (Text.replace after (token "ClassName")
    m.className) (token "ArtifactClass") a.className, ?_⟩
  simp only [List.append_assoc, List.cons_append, List.nil_append]

/-- Without a stub the skeleton is filled, and nothing is told. -/
theorem choose_none (namespaces : Ordered Text) (a : Artifact) (m : Schema.Metadata) :
    choose namespaces a m none =
      (substitute (skeleton a.kind) (replacements namespaces a m), []) := by
  unfold choose
  rfl

/-- With a stub the skeleton is filled only where the filled stub does not declare the class. -/
theorem choose_some (namespaces : Ordered Text) (a : Artifact) (m : Schema.Metadata)
    (template : Text) :
    choose namespaces a m (some template) =
      if declares (substitute template (replacements namespaces a m)) a.className then
        (substitute template (replacements namespaces a m), [])
      else (substitute (skeleton a.kind) (replacements namespaces a m), [notDeclared a]) := by
  unfold choose
  rfl

/-- A bundled stub declares the class once it is filled, so the filled stub is what is rendered. -/
theorem choose_bundled (namespaces : Ordered Text) {a : Artifact} (m : Schema.Metadata)
    (h : IsClassName a.className) {stub : Text} (hstub : stub ∈ bundled.map (·.2)) :
    (choose namespaces a m (some stub)).1 = substitute stub (replacements namespaces a m) := by
  have hdeclares := declares_filled namespaces m h (bundled_hasClassLine hstub)
  rw [choose_some, if_pos hdeclares]

/-- What is rendered declares the class of its artifact: a stub that does not is not used. -/
theorem declares_choose {namespaces : Ordered Text} {a : Artifact} {m : Schema.Metadata}
    {stub : Option Text} {text : Text} {messages : List Message} (h : IsClassName a.className)
    (hchoose : choose namespaces a m stub = (text, messages)) :
    declares text a.className = true := by
  have hleast := declares_filled namespaces m h (skeleton_hasClassLine a.kind)
  cases stub with
  | none =>
    rw [choose_none] at hchoose
    obtain ⟨rfl, -⟩ := Prod.mk.inj hchoose
    exact hleast
  | some template =>
    rw [choose_some] at hchoose
    split at hchoose
    next hdeclares =>
      obtain ⟨rfl, -⟩ := Prod.mk.inj hchoose
      exact hdeclares
    next =>
      obtain ⟨rfl, -⟩ := Prod.mk.inj hchoose
      exact hleast

end Scaffold.Stub
