import Mathlib.Data.List.Nodup
import Scaffold.Php.Relation
import Scaffold.Proofs.Distinct
import Scaffold.Proofs.Naming.Words
import Scaffold.Proofs.Php.Arrays

/-!
# What a resource shows and imports

The entries of a resource are those of an array: each has a key and shows a field of the row, or a
related row through the resource of its class. They are read back from the text as what they were
written from (`reads_field`, `reads_related`), and so are the imports (`imports?_join`). No hyphen
and no line feed stands in the name of a class (`mem_studly`), so the name of a resource ends where
the call after it begins, and an import where its line ends. The resources that the entries name
are then those that are imported, each once, but for the resource itself (`imports_match_uses`).
-/

namespace Scaffold

/-! ## What classes and methods are not spelled with -/

/-- A number that is none gives U+0000, and every other one the code point that has it. -/
theorem CodePoint.code_ofCode_or (n : Nat) : (ofCode n).code = n ∨ (ofCode n).code = 0 := by
  unfold ofCode
  split
  next h => exact Or.inl (Nat.add_sub_of_le h.1)
  next =>
    by_cases hvalid : n.isValidChar
    · left
      show (Char.ofNat n).toNat = n
      rw [Char.ofNat, dif_pos hvalid]
      rfl
    · right
      show (Char.ofNat n).toNat = 0
      rw [Char.ofNat, dif_neg hvalid]
      rfl

namespace Text.Table

/-- Where all forms in a table are letters or beyond, a number has such a form or is its own. -/
theorem image_letter {long : List (Nat × List Nat)} {shifts : List Shift}
    (hlong : ∀ e ∈ long, ∀ m ∈ e.2, 0x41 ≤ m)
    (hshifts : ∀ s ∈ shifts, 0x41 ≤ (s.first : Int) + s.offset) {n m : Nat}
    (h : m ∈ image long shifts n) : m = n ∨ 0x41 ≤ m := by
  unfold image at h
  split at h
  next ns hns =>
    obtain ⟨before, after, hsplit⟩ := List.lookup_eq_some_iff.mp hns
    exact Or.inr (hlong (n, ns) (hsplit.1 ▸ List.mem_append_right _ (List.mem_cons_self ..)) m h)
  next =>
    rw [List.mem_singleton] at h
    -- A code point without an image of its own is shifted, or stays as it is.
    cases hsend : shifts.findSome? (·.send? n) with
    | none =>
      rw [hsend] at h
      exact Or.inl h
    | some k =>
      rw [hsend, Option.getD_some] at h
      subst h
      obtain ⟨s, hs, hsend⟩ := List.exists_of_findSome?_eq_some hsend
      have hleast := hshifts s hs
      unfold Shift.send? at hsend
      split at hsend
      next hcovered =>
        obtain rfl := Option.some.inj hsend
        omega
      next => cases hsend

/-- Upper case leaves a number or makes it that of a letter, or one beyond. -/
theorem image_upper {n m : Nat} (h : m ∈ image upperLong upper n) : m = n ∨ 0x41 ≤ m :=
  image_letter (by decide) (by decide +kernel) h

/-- Lower case leaves a number or makes it that of a letter, or one beyond. -/
theorem image_lower {n m : Nat} (h : m ∈ image lowerLong lower n) : m = n ∨ 0x41 ≤ m :=
  image_letter (by decide) (by decide +kernel) h

end Text.Table

namespace CodePoint

/-- The code points of the images are the one that has them, letters, or something beyond ASCII; a
number that is none would give U+0000. -/
theorem mem_images {c d : CodePoint} {images : List Nat}
    (himages : ∀ m ∈ images, m = c.code ∨ 0x41 ≤ m) (h : d ∈ images.map ofCode) :
    d = c ∨ 0x41 ≤ d.code ∨ d.code = 0 := by
  obtain ⟨m, hm, rfl⟩ := List.mem_map.mp h
  have hcode := code_ofCode_or m
  rcases himages m hm with rfl | hletter
  · exact Or.inl (ofCode_code c)
  · exact Or.inr (by omega)

/-- In upper case a code point is itself, a letter, or something beyond ASCII. -/
theorem mem_upper {c d : CodePoint} (h : d ∈ c.upper) : d = c ∨ 0x41 ≤ d.code ∨ d.code = 0 := by
  unfold upper at h
  split at h
  next hascii =>
    rw [List.mem_singleton] at h
    subst h
    split
    next hsmall =>
      simp only [isLower, Bool.and_eq_true, decide_eq_true_eq] at hsmall
      rw [code_ofCode (by omega)]
      exact Or.inr (Or.inl (by omega))
    next => exact Or.inl rfl
  next => exact mem_images (fun m => Text.Table.image_upper) h

/-- In lower case a code point is itself, a letter, or something beyond ASCII. -/
theorem mem_lower {c d : CodePoint} (h : d ∈ c.lower) : d = c ∨ 0x41 ≤ d.code ∨ d.code = 0 := by
  unfold lower at h
  split at h
  next hascii =>
    rw [List.mem_singleton] at h
    subst h
    split
    next hcapital =>
      simp only [isUpper, Bool.and_eq_true, decide_eq_true_eq] at hcapital
      rw [code_ofCode (by omega)]
      exact Or.inr (Or.inl (by omega))
    next => exact Or.inl rfl
  next => exact mem_images (fun m => Text.Table.image_lower) h

end CodePoint

namespace Naming

/-- No hyphen, underscore or blank stands in a name in studly case, unless a capital is one. -/
theorem mem_studly {name : Text} {c : CodePoint} (h : c ∈ studly name) :
    isJoint c = false ∨ 0x41 ≤ c.code ∨ c.code = 0 := by
  obtain ⟨word, hword, hc⟩ := List.mem_flatten.mp h
  obtain ⟨piece, hpiece, rfl⟩ := List.mem_map.mp hword
  have hsplit := Text.mem_of_mem_splitWhere (List.mem_of_mem_filter hpiece)
  cases piece with
  | nil => exact absurd hc List.not_mem_nil
  | cons first rest =>
    rcases List.mem_append.mp hc with hc | hc
    · rcases CodePoint.mem_upper hc with rfl | hrange
      · exact Or.inl (hsplit c (List.mem_cons_self ..)).2
      · exact Or.inr hrange
    · exact Or.inl (hsplit c (List.mem_cons_of_mem _ hc)).2

/-- No hyphen, underscore or blank stands in a name in camel case, unless a capital is one. -/
theorem mem_camel {name : Text} {c : CodePoint} (h : c ∈ camel name) :
    isJoint c = false ∨ 0x41 ≤ c.code ∨ c.code = 0 := by
  have hstudly : ∀ d ∈ studly name, isJoint d = false ∨ 0x41 ≤ d.code ∨ d.code = 0 :=
    fun d => mem_studly
  unfold camel at h
  cases hname : studly name with
  | nil =>
    rw [hname] at h
    exact absurd h List.not_mem_nil
  | cons first rest =>
    rw [hname] at h hstudly
    obtain ⟨hfirst, hrest⟩ := List.forall_mem_cons.mp hstudly
    rcases List.mem_append.mp h with hc | hc
    · rcases CodePoint.mem_lower hc with rfl | hrange
      · exact hfirst
      · exact Or.inr hrange
    · exact hrest c hc

end Naming

namespace Php

open Schema (Relation)

/-! ## Entries -/

/-- What an entry of a resource shows. -/
inductive Shown where
  | field (name : Text)
  /-- The row that a relation leads to, by the resource of its class. -/
  | related (resource method : Text)
  deriving DecidableEq

/-- The resource that shows it, unless it is shown as it is. -/
def Shown.resource? : Shown → Option Text
  | field _ => none
  | related resource _ => some resource

/-- What names in code are made of. -/
def isNamePart (c : CodePoint) : Bool := c.isAlphanumeric || c = '_' || 0x80 ≤ c.code

/-- What precedes the name of a field where it is read. -/
def reading : Text := "$this->"

/-- What follows the name of a resource that shows a related row. -/
def loading : Text := "($this->whenLoaded("

/-- What a text shows at its start, and what follows that. -/
def shown? (t : Text) : Option (Shown × Text) :=
  match Text.dropStart? reading t with
  | some t => some (.field (t.takeWhile isNamePart), t.dropWhile isNamePart)
  | none => do
    let t ← Text.dropStart? "new " t
    let (resource, t) ← Text.cutAt loading t
    let (method, t) ← literal? t
    let t ← Text.dropStart? "))" t
    return (.related resource method, t)

/-- The entry of a field that is shown under its own name. -/
def fieldEntry (name : Text) : Text × Shown := (name, .field name)

/-- The entry of a related row, under the name of its method. -/
def relatedEntry (r : Relation) : Text × Shown :=
  (methodName r, .related (relatedResource r) (methodName r))

/-- The entries of a resource that a text begins with, and what follows them. -/
def shownEntries? : Text → Option (List (Text × Shown) × Text) := elements? (pair? shown?)

/-- A name in code. -/
structure Name where
  text : Text
  parts : ∀ c ∈ text, isNamePart c = true

/-- What does not continue a name. -/
def AfterName (t : Text) : Prop := ∀ c ∈ t.head?, isNamePart c = false

theorem allowsComma_name : AllowsComma AfterName := by
  intro more c hc
  obtain rfl : CodePoint.char ',' = c := Option.some.inj hc
  decide

/-- A name ends where something follows that is no part of names. -/
theorem takeWhile_name (n : Name) {rest : Text} (h : AfterName rest) :
    (n.text ++ rest).takeWhile isNamePart = n.text ∧
      (n.text ++ rest).dropWhile isNamePart = rest := by
  rw [List.takeWhile_append_of_pos n.parts, List.dropWhile_append_of_pos n.parts]
  cases rest with
  | nil => simp
  | cons c rest => simp [h c rfl]

/-- An entry for a field is read back. -/
theorem reads_field :
    Reads AfterName shown? (fun n : Name => Text.concat [reading, n.text])
      fun n => .field n.text where
  read := by
    intro n rest hrest
    have hsplit : Text.concat [reading, n.text] ++ rest = reading ++ (n.text ++ rest) := by
      simp [Text.concat]
    obtain ⟨htake, hdrop⟩ := takeWhile_name n hrest
    rw [shown?, hsplit, Text.dropStart?_append]
    dsimp only
    rw [htake, hdrop]
  solid := fun _ _ => rfl

/-- No hyphen and no line feed stands in the name of a resource. -/
theorem not_mem_relatedResource {c : CodePoint} (h : c = .char '-' ∨ c = .char '\n')
    (r : Relation) : c ∉ relatedResource r := by
  have hrange : ¬ (Naming.isJoint c = false ∨ 0x41 ≤ c.code ∨ c.code = 0) := by
    rcases h with rfl | rfl <;> decide
  have hsuffix : c ∉ Text.ofString "Resource" := by
    rcases h with rfl | rfl <;> decide
  rw [relatedResource, List.mem_append, not_or]
  exact ⟨mt Naming.mem_studly hrange, hsuffix⟩

/-- The name of a resource ends where the related row is loaded: no hyphen stands in it. -/
theorem cutAt_loading (r : Relation) (rest : Text) :
    Text.cutAt loading (relatedResource r ++ (loading ++ rest)) =
      some (relatedResource r, rest) := by
  have hhyphen : CodePoint.char '-' ∈ loading := by decide
  exact Text.cutAt_append hhyphen (not_mem_relatedResource (Or.inl rfl) r) rest

/-- An entry for a related row is read back. -/
theorem reads_related :
    Reads Anything shown?
      (fun r => Text.concat ["new ", relatedResource r, loading, quote (methodName r), "))"])
      fun r => .related (relatedResource r) (methodName r) where
  read := by
    intro r rest _
    have hsplit : Text.concat ["new ", relatedResource r, loading, quote (methodName r), "))"] ++
        rest = Text.ofString "new " ++ (relatedResource r ++ (loading ++
          (quote (methodName r) ++ (Text.ofString "))" ++ rest)))) := by
      simp [Text.concat]
    have hother : ∀ t, Text.dropStart? reading (Text.ofString "new " ++ t) = none :=
      fun _ => rfl
    simp only [shown?, hsplit, hother, Text.dropStart?_append, Option.bind_eq_bind,
      Option.bind_some, cutAt_loading, literal?_quote, Option.pure_def]
  solid := fun _ _ => rfl

/-- The entries for relations are read before those that follow them. -/
theorem shownEntries?_relationEntries (rs : List Relation) (more : Text) :
    shownEntries? (relationEntries rs ++ more) = (shownEntries? more).map fun (es, left) =>
      (rs.map relatedEntry ++ es, left) := by
  have hentries : relationEntries rs = Text.join entrySeparator
      ((rs.map fun r => (methodName r, r)).map fun e => [] ++ Text.concat [quote e.1, " => ",
        Text.concat ["new ", relatedResource e.2, loading, quote (methodName e.2), "))"]] ++
          [.char ',']) := by
    rw [List.map_map]
    refine congrArg (Text.join entrySeparator) (List.map_congr_left fun r _ => ?_)
    simp [Text.concat, Text.ofString, loading]
  have hread := elements?_lines (Reads.pair fun _ => reads_related) (fun _ => trivial)
    entrySeparator [] (by decide) (by decide)
    (rs.map fun r => (methodName r, r)) more
  rw [← hentries, List.map_map] at hread
  exact hread

/-- With nothing after them, the entries for relations are one for each relation. -/
theorem whole?_relationEntries (rs : List Relation) :
    whole? shownEntries? (relationEntries rs) = some (rs.map relatedEntry) := by
  have hread := shownEntries?_relationEntries rs []
  rw [List.append_nil, shownEntries?, elements?_nil (ends_nil rfl), Option.map_some,
    ← shownEntries?] at hread
  dsimp only at hread
  rw [whole?, hread, List.append_nil]

/-- The entries for attributes are read in the same way. -/
theorem shownEntries?_attributeEntries {fillable hidden : List Text}
    (h : ∀ name ∈ fillable, ∀ c ∈ name, isNamePart c = true) (more : Text) :
    shownEntries? (attributeEntries fillable hidden ++ more) =
      (shownEntries? more).map fun (es, left) =>
        ((fillable.filter fun name => !hidden.elem name).map fieldEntry ++ es, left) := by
  unfold attributeEntries
  have hnames : ∀ name ∈ fillable.filter fun name => !hidden.elem name,
      ∀ c ∈ name, isNamePart c = true :=
    fun name hname => h name (List.mem_of_mem_filter hname)
  generalize fillable.filter (fun name => !hidden.elem name) = names at hnames
  obtain ⟨names, rfl⟩ : ∃ ns : List Name, ns.map Name.text = names :=
    ⟨names.pmap Name.mk hnames, by simp [List.map_pmap]⟩
  have hentries : Text.join entrySeparator ((names.map Name.text).map fun name =>
      Text.concat [quote name, " => $this->", name, ","]) = Text.join entrySeparator
        ((names.map fun n => (n.text, n)).map fun e => [] ++ Text.concat [quote e.1, " => ",
          Text.concat [reading, e.2.text]] ++ [.char ',']) := by
    rw [List.map_map, List.map_map]
    refine congrArg (Text.join entrySeparator) (List.map_congr_left fun n _ => ?_)
    simp [Text.concat, Text.ofString, reading]
  have hread := elements?_lines (Reads.pair fun _ => reads_field) allowsComma_name
    entrySeparator [] (by decide) (by decide)
    (names.map fun n => (n.text, n)) more
  rw [← hentries] at hread
  simp only [List.map_map] at hread ⊢
  exact hread

/-! ## Imports -/

/-- What precedes the class in a line that imports it from a namespace. -/
def importOpening (ns : Text) : Text := Text.concat ["use ", ns, "\\"]

/-- A line that imports a class. -/
def importLine (ns className : Text) : Text := Text.concat [importOpening ns, className, ";"]

/-- The class of a namespace that the first line of a text imports, and the other lines. -/
def lineImport? (ns t : Text) : Option (Text × Text) := do
  let t ← Text.dropStart? (importOpening ns) t
  let (line, more) := (Text.cutAt ['\n'] t).getD (t, [])
  let className ← Text.dropEnd? ";" line
  return (className, more)

/-- The classes of a namespace that the lines of a text import. -/
def imports? (ns t : Text) : Option (List Text) :=
  if t = [] then some []
  else
    match lineImport? ns t with
    | none => none
    | some (className, more) =>
      if more.length < t.length then (imports? ns more).map fun rest => className :: rest
      else none
  termination_by t.length

variable {ns className : Text} {classNames : List Text}

/-- An import begins with its opening and the class. -/
theorem dropStart?_importLine (rest : Text) :
    Text.dropStart? (importOpening ns) (importLine ns className ++ rest) =
      some (className ++ Text.ofString ";" ++ rest) := by
  have hsplit : importLine ns className ++ rest =
      importOpening ns ++ (className ++ Text.ofString ";" ++ rest) := by
    simp [importLine, Text.concat]
  rw [hsplit, Text.dropStart?_append]

/-- A line is read up to its line feed or up to the end of the text. -/
theorem lineImport?_append (h : CodePoint.char '\n' ∉ className) {rest more : Text}
    (hrest : rest = .char '\n' :: more ∨ rest = [] ∧ more = []) :
    lineImport? ns (importLine ns className ++ rest) = some (className, more) := by
  have hline : CodePoint.char '\n' ∉ className ++ Text.ofString ";" := by
    simp [h, Text.ofString]
  have hcut : (Text.cutAt ['\n'] (className ++ Text.ofString ";" ++ rest)).getD
      (className ++ Text.ofString ";" ++ rest, []) = (className ++ Text.ofString ";", more) := by
    rcases hrest with rfl | ⟨rfl, rfl⟩
    · rw [Text.cutAt_point_iff.mpr ⟨hline, rfl⟩, Option.getD_some]
    · have hnone : Text.cutAt ['\n'] (className ++ Text.ofString ";") = none := by
        refine Option.eq_none_iff_forall_ne_some.mpr fun parts hparts => hline ?_
        rw [(Text.cutAt_point_iff.mp hparts).2]
        simp
      rw [List.append_nil, hnone, Option.getD_none]
  have hclosed : Text.dropEnd? ";" (className ++ Text.ofString ";") = some className :=
    Text.dropEnd?_eq_some_iff.mpr rfl
  simp only [lineImport?, dropStart?_importLine, Option.bind_eq_bind, Option.bind_some, hcut,
    hclosed, Option.pure_def]

theorem imports?_nil : imports? ns [] = some [] := by
  rw [imports?, if_pos rfl]

/-- An import is read back, with those on the lines after it. -/
theorem imports?_line (h : CodePoint.char '\n' ∉ className) {rest more : Text}
    (hrest : rest = .char '\n' :: more ∨ rest = [] ∧ more = []) :
    imports? ns (importLine ns className ++ rest) =
      (imports? ns more).map fun classNames => className :: classNames := by
  have hne : importLine ns className ++ rest ≠ [] := by
    simp [importLine, Text.concat, Text.ofString]
  have hless : more.length < (importLine ns className ++ rest).length := by
    rcases hrest with rfl | ⟨rfl, rfl⟩
    · simp
      omega
    · exact List.length_pos_of_ne_nil hne
  rw [imports?, if_neg hne, lineImport?_append h hrest]
  dsimp only
  rw [if_pos hless]

/-- Imports of classes whose names are not broken into lines are read back. -/
theorem imports?_join (h : ∀ className ∈ classNames, CodePoint.char '\n' ∉ className) :
    imports? ns (Text.join "\n" (classNames.map (importLine ns))) = some classNames := by
  induction classNames with
  | nil => exact imports?_nil
  | cons className classNames ih =>
    obtain ⟨hclass, h⟩ := List.forall_mem_cons.mp h
    cases classNames with
    | nil =>
      have hlast : imports? ns (importLine ns className ++ []) = _ :=
        imports?_line hclass (Or.inr ⟨rfl, rfl⟩)
      rwa [List.append_nil, imports?_nil] at hlast
    | cons next classNames =>
      have hsplit : Text.join "\n" ((className :: next :: classNames).map (importLine ns)) =
          importLine ns className ++
            .char '\n' :: Text.join "\n" ((next :: classNames).map (importLine ns)) := by
        simp [Text.join, Text.ofString]
      rw [hsplit, imports?_line hclass (Or.inl rfl), ih h]
      rfl

/-! ## Imports of what is used -/

/-- The resources that entries name, in order. -/
def used? (t : Text) : Option (List Text) :=
  (whole? shownEntries? t).map fun es => es.filterMap fun e => e.2.resource?

/-- Where each resource other than the own one is used first. -/
def firstUses (own : Text) (uses : List Text) : List Text := (uses.filter (· ≠ own)).eraseDups

/-- The resources to import are those that are used, but for the own one. -/
theorem mem_firstUses {own resource : Text} {uses : List Text} :
    resource ∈ firstUses own uses ↔ resource ∈ uses ∧ resource ≠ own := by
  rw [firstUses, List.mem_eraseDups, List.mem_filter, decide_eq_true_eq]

/-- The entries use the resources of the relations, in order. -/
theorem used?_relationEntries (relations : List Relation) :
    used? (relationEntries relations) = some (relations.map relatedResource) := by
  have hnames : (relations.map relatedEntry).filterMap (fun e => e.2.resource?) =
      relations.map relatedResource := by
    rw [List.filterMap_map]
    exact congrFun List.filterMap_eq_map relations
  rw [used?, whole?_relationEntries, Option.map_some, hnames]

/-- Different resources have different imports. -/
theorem importLine_injective (ns : Text) : Function.Injective (importLine ns) := by
  intro c d h
  simpa [importLine, Text.concat] using h

/-- The imports are one line for each resource to import. -/
theorem resourceImports_eq (relations : List Relation) (ns own : Text) :
    resourceImports relations ns own = Text.join "\n"
      ((firstUses own (relations.map relatedResource)).map (importLine ns)) := by
  rw [firstUses, ← distinct_map (importLine_injective ns), resourceImports]
  refine congrArg (fun lines => Text.join "\n" (distinct lines)) ?_
  refine List.map_congr_left fun resource _ => ?_
  simp [importLine, importOpening, Text.concat]

/-- The resources that the entries for relations name are those of the related classes. The imports
are the first uses of those that are not the resource itself, in their order. So every resource that
is used is the resource itself or is imported by exactly one line, the resource itself is never
imported, and nothing is imported that is not used. -/
theorem imports_match_uses (relations : List Relation) (ns own : Text) :
    ∃ uses imported, used? (relationEntries relations) = some uses ∧
      imports? ns (resourceImports relations ns own) = some imported ∧
      resourceImports relations ns own = Text.join "\n" (imported.map (importLine ns)) ∧
      uses = relations.map relatedResource ∧
      imported = (uses.filter (· ≠ own)).eraseDups ∧ imported.Nodup ∧ own ∉ imported ∧
      (∀ resource ∈ uses, resource = own ∨ imported.count resource = 1) ∧
      ∀ resource ∈ imported, resource ∈ uses := by
  have himports := resourceImports_eq relations ns own
  have hnodup : (firstUses own (relations.map relatedResource)).Nodup := nodup_eraseDups _
  have hlines : ∀ resource ∈ firstUses own (relations.map relatedResource),
      CodePoint.char '\n' ∉ resource := by
    intro resource hresource
    obtain ⟨r, _, rfl⟩ := List.mem_map.mp (mem_firstUses.mp hresource).1
    exact not_mem_relatedResource (Or.inr rfl) r
  refine ⟨_, firstUses own (relations.map relatedResource), used?_relationEntries relations, ?_,
    himports, rfl, rfl, hnodup, ?_, ?_, ?_⟩
  · rw [himports, imports?_join hlines]
  · exact fun hown => (mem_firstUses.mp hown).2 rfl
  · intro resource hresource
    by_cases hown : resource = own
    · exact Or.inl hown
    · exact Or.inr (List.count_eq_one_of_mem hnodup (mem_firstUses.mpr ⟨hresource, hown⟩))
  · exact fun resource hresource => (mem_firstUses.mp hresource).1

end Php

end Scaffold
