import Scaffold.Proofs.Php.Resources
import Scaffold.Proofs.Stub.Substitution

/-!
# The fields that a resource reads

Which fields code reads is found by looking for the reads, wherever they stand (`fieldsRead`). Text
without a dollar sign reads none (`fieldsRead_free`), a read is found whatever follows it
(`fieldsRead_field`), and lines read what each of them reads (`fieldsRead_join`). So where names are
spelled with letters, digits and underscores (`Spelled`), the entries of a resource for attributes
read just these, and those for relations ask whether the related row is loaded.

Everything else that is put into a resource is bare (`Bare`): without a dollar sign it reads
nothing, without a bracket it opens no array, and without a brace it makes no token. The class of
bare texts is closed under what the program does to make such values, appending, joining and
quoting, so each value is shown to be bare by how it is made.
-/

namespace Scaffold.Stub

open Php (isNamePart AfterName reading)
open Schema (Metadata)

/-! ## The fields that code reads -/

/-- The names of the fields that code reads, in order. -/
def fieldsRead : Text → List Text
  | [] => []
  | c :: t =>
    match Text.dropStart? reading (c :: t) with
    | some rest => rest.takeWhile isNamePart :: fieldsRead t
    | none => fieldsRead t

/-- Where no field is read, there is nothing but what is read after it. -/
theorem fieldsRead_free {t : Text} (h : CodePoint.char '$' ∉ t) (rest : Text) :
    fieldsRead (t ++ rest) = fieldsRead rest := by
  induction t with
  | nil => rfl
  | cons c t ih =>
    obtain ⟨hc, ht⟩ := not_or.mp (mt List.mem_cons.mpr h)
    have hnone : Text.dropStart? reading (c :: (t ++ rest)) = none := by
      rw [Text.dropStart?_eq_none_iff]
      exact fun hprefix => hc (List.cons_prefix_cons.mp hprefix).1
    rw [List.cons_append, fieldsRead, hnone]
    exact ih ht

/-- A read is found with its name, whatever follows the name that is no part of one. -/
theorem fieldsRead_field {name rest : Text} (h : ∀ c ∈ name, isNamePart c = true)
    (hrest : AfterName rest) :
    fieldsRead (reading ++ (name ++ rest)) = name :: fieldsRead rest := by
  obtain ⟨htake, _⟩ := Php.takeWhile_name ⟨name, h⟩ hrest
  have hopening : CodePoint.char '$' ∉ Text.ofString "this->" := by decide
  have hname : CodePoint.char '$' ∉ name := fun hmem => absurd (h _ hmem) (by decide)
  have hdrop := Text.dropStart?_append reading (name ++ rest)
  have hsplit : reading ++ (name ++ rest) =
      .char '$' :: (Text.ofString "this->" ++ (name ++ rest)) := rfl
  rw [hsplit] at hdrop ⊢
  rw [fieldsRead, hdrop]
  dsimp only at htake ⊢
  rw [htake, fieldsRead_free hopening, fieldsRead_free hname]

/-- What is read in lines, if what is read in each does not depend on what follows it. -/
theorem fieldsRead_join {α : Type} (separator : Text) (hseparator : CodePoint.char '$' ∉ separator)
    {line : α → Text} {read : α → List Text} {xs : List α}
    (hline : ∀ x ∈ xs, ∀ rest, fieldsRead (line x ++ rest) = read x ++ fieldsRead rest)
    (rest : Text) :
    fieldsRead (Text.join separator (xs.map line) ++ rest) =
      xs.flatMap read ++ fieldsRead rest := by
  induction xs with
  | nil => rfl
  | cons x xs ih =>
    obtain ⟨hx, hxs⟩ := List.forall_mem_cons.mp hline
    cases xs with
    | nil => simpa [Text.join] using hx rest
    | cons y xs =>
      have hsplit : Text.join separator ((x :: y :: xs).map line) ++ rest =
          line x ++ (separator ++ (Text.join separator ((y :: xs).map line) ++ rest)) := by
        simp [Text.join]
      rw [hsplit, hx, fieldsRead_free hseparator, ih hxs, ← List.append_assoc]
      rfl

/-! ## What is put into a resource -/

/-- The text reads no field, opens no array and holds no token. -/
def Bare (t : Text) : Prop := CodePoint.char '$' ∉ t ∧ CodePoint.char '[' ∉ t ∧ openBrace ∉ t

instance (t : Text) : Decidable (Bare t) := inferInstanceAs (Decidable (_ ∧ _ ∧ _))

/-- Two bare texts in a row are bare. -/
theorem Bare.append {s t : Text} (h : Bare s) (h' : Bare t) : Bare (s ++ t) := by
  simp only [Bare, List.mem_append, not_or] at h h' ⊢
  exact ⟨⟨h.1, h'.1⟩, ⟨h.2.1, h'.2.1⟩, ⟨h.2.2, h'.2.2⟩⟩

/-- Names of tables are bare. -/
theorem Bare.of_tableName {t : Text} (h : TableName t) : Bare t :=
  ⟨fun hmem => absurd (h _ hmem) (by decide), fun hmem => absurd (h _ hmem) (by decide),
    fun hmem => absurd (h _ hmem) (by decide)⟩

/-- Plain names are bare. -/
theorem Bare.of_plain {t : Text} (h : Plain t) : Bare t := .of_tableName h.tableName

/-- Bare texts are bare when they are joined by one. -/
theorem Bare.join {separator : Text} (hseparator : Bare separator) {ts : List Text}
    (h : ∀ t ∈ ts, Bare t) : Bare (Text.join separator ts) := by
  induction ts with
  | nil => exact ⟨List.not_mem_nil, List.not_mem_nil, List.not_mem_nil⟩
  | cons t ts ih =>
    obtain ⟨ht, hts⟩ := List.forall_mem_cons.mp h
    cases ts with
    | nil => exact ht
    | cons u ts => exact (ht.append hseparator).append (ih hts)

/-- A bare text is bare between quotes. -/
theorem Bare.quote {t : Text} (h : Bare t) : Bare (Php.quote t) := by
  have hescape : ∀ c ∈ t.flatMap Php.escape, c = .char '\\' ∨ c ∈ t := by
    intro c hc
    obtain ⟨d, hd, hc⟩ := List.mem_flatMap.mp hc
    unfold Php.escape at hc
    split at hc
    next =>
      rcases List.mem_pair.mp hc with rfl | rfl
      · exact Or.inl rfl
      · exact Or.inr hd
    next => exact Or.inr (List.mem_singleton.mp hc ▸ hd)
  have hinside : Bare (t.flatMap Php.escape) := by
    refine ⟨fun hc => ?_, fun hc => ?_, fun hc => ?_⟩
    · exact (hescape _ hc).elim (by decide) h.1
    · exact (hescape _ hc).elim (by decide) h.2.1
    · exact (hescape _ hc).elim (by decide) h.2.2
  have hquote : Bare "'" := by decide
  have hsplit : Php.quote t = Text.ofString "'" ++ (t.flatMap Php.escape ++ Text.ofString "'") := by
    simp [Php.quote, Text.concat]
  rw [hsplit]
  exact hquote.append (hinside.append hquote)

/-- A name of a table is made of what names of fields are made of. -/
theorem isNamePart_of_tableName {t : Text} (h : TableName t) : ∀ c ∈ t, isNamePart c = true := by
  intro c hc
  unfold isNamePart
  rcases h c hc with hc | rfl
  · simp [hc]
  · rfl

/-- What is put into a resource is spelled with letters, digits and underscores, but for the
namespaces, which are bare. -/
structure Spelled (namespaces : Ordered Text) (a : Artifact) (m : Metadata) : Prop where
  declared : Bare (declaredNamespace namespaces a "App")
  siblings : Bare (namespaceOr namespaces "resource" "App\\Http\\Resources")
  own : IsClassName a.className
  model : Plain m.className
  fillable : ∀ name ∈ m.fillable, TableName name
  methods : ∀ r ∈ m.relations, Plain (Php.methodName r)
  classes : ∀ r ∈ m.relations, Plain (Php.relatedResource r)

section

variable {namespaces : Ordered Text} {a : Artifact} {m : Metadata}

/-- The entries for attributes that a resource is filled with. -/
abbrev attributes (m : Metadata) : Text := Php.attributeEntries m.fillable m.hidden

/-- The entries for relations. -/
abbrev related (m : Metadata) : Text := Php.relationEntries m.relations

/-- The imports of related resources. -/
abbrev imports (namespaces : Ordered Text) (a : Artifact) (m : Metadata) : Text :=
  Php.resourceImports m.relations
    (namespaceOr namespaces "resource" "App\\Http\\Resources") a.className

/-- The columns that may be assigned and are not hidden. -/
def visible (m : Metadata) : List Text := m.fillable.filter fun name => !m.hidden.elem name

/-- The imports of a resource are bare. -/
theorem Spelled.bare_imports (h : Spelled namespaces a m) : Bare (imports namespaces a m) := by
  have hparts : Bare "use " ∧ Bare "\\" ∧ Bare ";" ∧ Bare "\n" := by decide
  obtain ⟨huse, hslash, hend, hline⟩ := hparts
  unfold imports
  rw [Php.resourceImports_eq]
  refine .join hline fun line hline => ?_
  obtain ⟨resource, hresource, rfl⟩ := List.mem_map.mp hline
  obtain ⟨r, hr, rfl⟩ := List.mem_map.mp (Php.mem_firstUses.mp hresource).1
  have hclass := Bare.of_plain (h.classes r hr)
  have hsplit : ∀ ns c, Php.importLine ns c =
      Text.ofString "use " ++ (ns ++ (Text.ofString "\\" ++ (c ++ Text.ofString ";"))) := by
    simp [Php.importLine, Php.importOpening, Text.concat]
  rw [hsplit]
  exact huse.append (h.siblings.append (hslash.append (hclass.append hend)))

/-- Of the entries for attributes, each reads its field. -/
theorem Spelled.fieldsRead_attributes (h : Spelled namespaces a m) (rest : Text) :
    fieldsRead (attributes m ++ rest) = visible m ++ fieldsRead rest := by
  have hline : ∀ name ∈ visible m, ∀ rest,
      fieldsRead (Text.concat [Php.quote name, " => $this->", name, ","] ++ rest) =
        [name] ++ fieldsRead rest := by
    intro name hname rest
    have htable := h.fillable name (List.mem_of_mem_filter hname)
    have hfree : CodePoint.char '$' ∉ Php.quote name ++ Text.ofString " => " := by
      rw [List.mem_append, not_or]
      exact ⟨(Bare.of_tableName htable).quote.1, by decide⟩
    have hcomma : CodePoint.char '$' ∉ [CodePoint.char ','] := by decide
    have hafter : AfterName (.char ',' :: rest) := by
      rintro c ⟨⟩
      decide
    have hsplit : Text.concat [Php.quote name, " => $this->", name, ","] ++ rest =
        Php.quote name ++ Text.ofString " => " ++ (reading ++ (name ++ .char ',' :: rest)) := by
      simp [Text.concat, Text.ofString, reading]
    have hend := fieldsRead_free hcomma rest
    rw [List.singleton_append] at hend
    have hname := isNamePart_of_tableName htable
    rw [hsplit, fieldsRead_free hfree, fieldsRead_field hname hafter, hend]
    rfl
  have hread := fieldsRead_join Php.entrySeparator (by decide) hline rest
  rwa [List.flatMap_singleton'] at hread

/-- Of the entries for relations, each asks whether the related row is loaded. -/
theorem Spelled.fieldsRead_related (h : Spelled namespaces a m) (rest : Text) :
    fieldsRead (related m ++ rest) =
      m.relations.map (fun _ => Text.ofString "whenLoaded") ++ fieldsRead rest := by
  have hline : ∀ r ∈ m.relations, ∀ rest,
      fieldsRead (Text.concat [Php.quote (Php.methodName r), " => new ", Php.relatedResource r,
        "($this->whenLoaded(", Php.quote (Php.methodName r), ")),"] ++ rest) =
          [Text.ofString "whenLoaded"] ++ fieldsRead rest := by
    intro r hr rest
    have hmethod := (Bare.of_plain (h.methods r hr)).quote
    have hclass := Bare.of_plain (h.classes r hr)
    -- A line reads one field, in its middle: there is no dollar sign on either side of it.
    have hbefore : CodePoint.char '$' ∉ Php.quote (Php.methodName r) ++ (Text.ofString " => new " ++
        (Php.relatedResource r ++ Text.ofString "(")) := by
      simp only [List.mem_append, not_or]
      exact ⟨hmethod.1, by decide, hclass.1, by decide⟩
    have hafter : CodePoint.char '$' ∉ Text.ofString "(" ++ (Php.quote (Php.methodName r) ++
        Text.ofString ")),") := by
      simp only [List.mem_append, not_or]
      exact ⟨by decide, hmethod.1, by decide⟩
    have hname : ∀ c ∈ Text.ofString "whenLoaded", isNamePart c = true := by decide
    have hstop : ∀ t, AfterName (Text.ofString "(" ++ t) := by
      rintro t c ⟨⟩
      decide
    have hsplit : Text.concat [Php.quote (Php.methodName r), " => new ", Php.relatedResource r,
        "($this->whenLoaded(", Php.quote (Php.methodName r), ")),"] ++ rest =
          (Php.quote (Php.methodName r) ++ (Text.ofString " => new " ++ (Php.relatedResource r ++
            Text.ofString "("))) ++ (reading ++ (Text.ofString "whenLoaded" ++
              ((Text.ofString "(" ++ (Php.quote (Php.methodName r) ++ Text.ofString ")),")) ++
                rest))) := by
      simp [Text.concat, Text.ofString, reading]
    have hread := fieldsRead_field hname (hstop (Php.quote (Php.methodName r) ++
      Text.ofString ")),"  ++ rest))
    rw [hsplit, fieldsRead_free hbefore, List.append_assoc, hread, ← List.append_assoc,
      fieldsRead_free hafter]
    rfl
  have hread := fieldsRead_join Php.entrySeparator (by decide) hline rest
  rwa [← List.map_eq_flatMap] at hread

/-- What none of the parts of any line holds, the lines do not hold. -/
theorem not_mem_lines {α : Type} {c : CodePoint} {separator : Text} (hseparator : c ∉ separator)
    (parts : α → List Text) {xs : List α} (h : ∀ x ∈ xs, ∀ part ∈ parts x, c ∉ part) :
    c ∉ Text.join separator (xs.map fun x => Text.concat (parts x)) := by
  intro hmem
  rcases Text.mem_of_mem_join hmem with hmem | ⟨line, hline, hmem⟩
  · exact hseparator hmem
  · obtain ⟨x, hx, rfl⟩ := List.mem_map.mp hline
    obtain ⟨part, hpart, hmem⟩ := List.mem_flatten.mp hmem
    exact h x hx part hpart hmem

/-- The entries for attributes hold no brace. -/
theorem Spelled.brace_not_mem_attributes (h : Spelled namespaces a m) :
    openBrace ∉ attributes m := by
  refine not_mem_lines (by decide) (fun name => [Php.quote name, " => $this->", name, ","])
    fun name hname => ?_
  have htable := Bare.of_tableName (h.fillable name (List.mem_of_mem_filter hname))
  simp only [List.forall_mem_cons]
  exact ⟨htable.quote.2.2, by decide, htable.2.2, by decide, nofun⟩

/-- The entries for relations hold no brace. -/
theorem Spelled.brace_not_mem_related (h : Spelled namespaces a m) : openBrace ∉ related m := by
  refine not_mem_lines (by decide) (fun r => [Php.quote (Php.methodName r), " => new ",
    Php.relatedResource r, "($this->whenLoaded(", Php.quote (Php.methodName r), ")),"])
    fun r hr => ?_
  have hmethod := (Bare.of_plain (h.methods r hr)).quote
  have hclass := Bare.of_plain (h.classes r hr)
  simp only [List.forall_mem_cons]
  exact ⟨hmethod.2.2, by decide, hclass.2.2, by decide, hmethod.2.2, by decide, nofun⟩

end

end Scaffold.Stub
