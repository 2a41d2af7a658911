import Scaffold.Proofs.Artifact.Standard
import Scaffold.Proofs.Schema.Coherence
import Scaffold.Proofs.Stub.Fields
import Scaffold.Proofs.Stub.Pieces

/-!
# What a rendered resource gives away

A resource reads the fields of a row and shows them in an array, whose entries can be read back
(`shownBy?`). Both templates of a resource are quiet up to the array, whatever they are filled with
(`Calm`), so all that is read is what the array shows (`Spelled.array_shown`). For a table with
names in ASCII, that is every assignable column but the sensitive ones, each once and in the order
of the columns (`resource_hides_sensitive`).

A template is given here as its pieces, text and tokens with the values they stand for. Filling it
is filling the pieces one by one as long as they are sound, that is, as long as no value makes a
token with its surroundings. What is read of the filled template is then read piece by piece too.

The two templates differ in what stands before the array and in its entries: the stub shows
relations as well, the skeleton does not. The statement about either is an instance of the one about
an array between a quiet head and its end.
-/

namespace Scaffold.Stub

open Php (Shown fieldEntry relatedEntry isNamePart AfterName reading shownEntries?)
open Schema (Column Relation Metadata)

section

variable {namespaces : Ordered Text} {a : Artifact} {m : Metadata}

/-! ## The two templates -/

/-- What stands before the array of a resource in its stub. -/
def stubHead (namespaces : Ordered Text) (a : Artifact) (m : Metadata) : List Piece :=
  [.text "<?php\n\nnamespace ", .token "namespace" (declaredNamespace namespaces a "App"),
   .text ";\n\nuse Illuminate\\Http\\Resources\\Json\\JsonResource;\n",
   .token "resource_imports" (imports namespaces a m),
   .text "\n\n/**\n * API representation of ", .token "ClassName" m.className,
   .text ".\n */\nclass ", .token "ArtifactClass" a.className,
   .text " extends JsonResource\n\x7b\n    /**\n     * @param  \\Illuminate\\Http\\Request  ",
   .text "$request",
   .text "\n     * @return array<string, mixed>\n     */\n    public function toArray(",
   .text "$request", .text ")\n    \x7b\n        return "]

/-- What stands before the array in the skeleton. -/
def skeletonHead (namespaces : Ordered Text) (a : Artifact) : List Piece :=
  [.text "<?php\n\nnamespace ", .token "namespace" (declaredNamespace namespaces a "App"),
   .text ";\n\nuse Illuminate\\Http\\Resources\\Json\\JsonResource;\n\nclass ",
   .token "ArtifactClass" a.className,
   .text " extends JsonResource\n\x7b\n    public function toArray(", .text "$request",
   .text ")\n    \x7b\n        return "]

/-- What precedes the entries for attributes in the array: that of the identifier. -/
def identifierLine : Text := "\n            'id' => $this->id,\n            "

/-- The array up to the entries for attributes. -/
def arrayStart : Text := '[' :: identifierLine

/-- The end of the array, and what follows it. -/
def arrayEnd : Text := "\n        ];\n    \x7d\n\x7d\n"

def stubArray (m : Metadata) : List Piece :=
  [.text arrayStart, .token "fillable_mappings" (attributes m), .text "\n            ",
   .token "relationship_mappings" (related m), .text arrayEnd]

def skeletonArray (m : Metadata) : List Piece :=
  [.text arrayStart, .token "fillable_mappings" (attributes m), .text arrayEnd]

/-- The stub of a resource is its pieces as they are written. -/
theorem resourceStub_eq (namespaces : Ordered Text) (a : Artifact) (m : Metadata) :
    resourceStub = (stubHead namespaces a m ++ stubArray m).flatMap Piece.written := by
  simp only [resourceStub, lines, stubHead, stubArray, arrayStart, identifierLine, arrayEnd,
    List.cons_append, List.nil_append, List.flatMap_cons, List.flatMap_nil, Piece.written,
    Text.ofString_ofList]
  decide +kernel

/-- The skeleton of a resource is its pieces as they are written. -/
theorem resourceSkeleton_eq (namespaces : Ordered Text) (a : Artifact) (m : Metadata) :
    resourceSkeleton =
      (skeletonHead namespaces a ++ skeletonArray m).flatMap Piece.written := by
  simp only [resourceSkeleton, lines, skeletonHead, skeletonArray, arrayStart, identifierLine,
    arrayEnd, List.cons_append, List.nil_append, List.flatMap_cons, List.flatMap_nil,
    Piece.written, Text.ofString_ofList]
  decide +kernel

/-! ## What stands before the array -/

/-- The text reads no field, whatever follows it, and opens no array. -/
structure Quiet (t : Text) : Prop where
  reads : ∀ rest, fieldsRead (t ++ rest) = fieldsRead rest
  arrays : CodePoint.char '[' ∉ t

/-- A text without dollar signs and brackets is quiet. -/
theorem Quiet.of_free {t : Text} (h : CodePoint.char '$' ∉ t) (h' : CodePoint.char '[' ∉ t) :
    Quiet t := ⟨fieldsRead_free h, h'⟩

/-- The piece is filled as it should be, and with quiet text. -/
structure Calm (values : Ordered Text) (piece : Piece) : Prop where
  sound : piece.Sound values
  quiet : Quiet piece.filled

/-- Bare text is calm. -/
theorem Calm.of_bare {values : Ordered Text} {t : Text} (h : Bare t) : Calm values (.text t) :=
  ⟨.text (.of_free h.2.2), .of_free h.1 h.2.1⟩

/-- A token whose value is bare is calm. -/
theorem Calm.of_token {values : Ordered Text} {name value : Text} (hname : IsName name)
    (hvalue : Ordered.get? values (tokenOf name) = some value) (h : Bare value) :
    Calm values (.token name value) :=
  ⟨.token hname hvalue (.of_free h.2.2), .of_free h.1 h.2.1⟩

/-- The parameter of the method is no field. -/
theorem calm_request (values : Ordered Text) : Calm values (.text "$request") :=
  ⟨.text (by decide), fun _ => rfl, by decide⟩

/-- Pieces that are calm make a quiet text once they are filled. -/
theorem Quiet.flatMap {values : Ordered Text} {pieces : List Piece}
    (h : ∀ piece ∈ pieces, Calm values piece) : Quiet (pieces.flatMap Piece.filled) := by
  induction pieces with
  | nil => exact ⟨fun _ => rfl, List.not_mem_nil⟩
  | cons piece pieces ih =>
    obtain ⟨hpiece, h⟩ := List.forall_mem_cons.mp h
    have hlater := ih h
    constructor
    · intro rest
      rw [List.flatMap_cons, List.append_assoc, hpiece.quiet.reads, hlater.reads]
    · rw [List.flatMap_cons, List.mem_append, not_or]
      exact ⟨hpiece.quiet.arrays, hlater.arrays⟩

/-- The namespace is calm. -/
theorem Spelled.calm_declared (h : Spelled namespaces a m) :
    Calm (replacements namespaces a m)
      (.token "namespace" (declaredNamespace namespaces a "App")) :=
  .of_token (by decide) rfl h.declared

/-- The name of the class is calm. -/
theorem Spelled.calm_own (h : Spelled namespaces a m) :
    Calm (replacements namespaces a m) (.token "ArtifactClass" a.className) :=
  .of_token (by decide) rfl (.of_plain h.own.2)

/-- What stands before the array in the stub is calm. -/
theorem Spelled.calm_stubHead (h : Spelled namespaces a m) :
    ∀ piece ∈ stubHead namespaces a m, Calm (replacements namespaces a m) piece := by
  simp only [stubHead, List.forall_mem_cons]
  -- Two of the texts hold a single brace.
  refine ⟨.of_bare (by decide), h.calm_declared, .of_bare (by decide),
    .of_token (by decide) rfl h.bare_imports, .of_bare (by decide),
    .of_token (by decide) rfl (.of_plain h.model), .of_bare (by decide), h.calm_own,
    ⟨.text (by decide), .of_free (by decide) (by decide)⟩, calm_request _, .of_bare (by decide),
    calm_request _, ⟨.text (by decide), .of_free (by decide) (by decide)⟩, nofun⟩

/-- What stands before it in the skeleton is calm. -/
theorem Spelled.calm_skeletonHead (h : Spelled namespaces a m) :
    ∀ piece ∈ skeletonHead namespaces a, Calm (replacements namespaces a m) piece := by
  simp only [skeletonHead, List.forall_mem_cons]
  refine ⟨.of_bare (by decide), h.calm_declared, .of_bare (by decide), h.calm_own,
    ⟨.text (by decide), .of_free (by decide) (by decide)⟩, calm_request _,
    ⟨.text (by decide), .of_free (by decide) (by decide)⟩, nofun⟩

/-! ## The array -/

/-- The entries for attributes can be put in without a change to what stands around them. -/
theorem Spelled.sound_attributes (h : Spelled namespaces a m) :
    (Piece.token "fillable_mappings" (attributes m)).Sound (replacements namespaces a m) :=
  .token (by decide) rfl (.of_free h.brace_not_mem_attributes)

theorem sound_arrayStart (values : Ordered Text) : (Piece.text arrayStart).Sound values :=
  .text (by decide)

theorem sound_arrayEnd (values : Ordered Text) : (Piece.text arrayEnd).Sound values :=
  .text (by decide)

/-- The array of the stub is filled piece by piece. -/
theorem Spelled.sound_stubArray (h : Spelled namespaces a m) :
    ∀ piece ∈ stubArray m, piece.Sound (replacements namespaces a m) := by
  simp only [stubArray, List.forall_mem_cons]
  exact ⟨sound_arrayStart _, h.sound_attributes, .text (by decide),
    .token (by decide) rfl (.of_free h.brace_not_mem_related), sound_arrayEnd _, nofun⟩

/-- The array of the skeleton is filled piece by piece. -/
theorem Spelled.sound_skeletonArray (h : Spelled namespaces a m) :
    ∀ piece ∈ skeletonArray m, piece.Sound (replacements namespaces a m) := by
  simp only [skeletonArray, List.forall_mem_cons]
  exact ⟨sound_arrayStart _, h.sound_attributes, sound_arrayEnd _, nofun⟩

/-- A template of a calm part and an array is filled piece by piece. -/
theorem substitute_calm {head array : List Piece}
    (hhead : ∀ piece ∈ head, Calm (replacements namespaces a m) piece)
    (harray : ∀ piece ∈ array, piece.Sound (replacements namespaces a m)) :
    substitute ((head ++ array).flatMap Piece.written) (replacements namespaces a m) =
      head.flatMap Piece.filled ++ array.flatMap Piece.filled := by
  have hsound : ∀ piece ∈ head ++ array, piece.Sound (replacements namespaces a m) :=
    List.forall_mem_append.mpr ⟨fun piece hpiece => (hhead piece hpiece).sound, harray⟩
  rw [substitute_pieces (areTokens_replacements namespaces a m) hsound, List.flatMap_append]

/-! ## What the array shows -/

/-- The entries of the first array of a text, with what each shows. -/
def shownBy? (t : Text) : Option (List (Text × Shown)) := do
  let (_, t) ← Text.cutAt ['['] t
  let (entries, t) ← shownEntries? t
  let _ ← Text.dropStart? "]" t
  return entries

/-- The line of the identifier shows its field first. -/
theorem shownEntries?_identifierLine (rest : Text) :
    shownEntries? (identifierLine ++ rest) =
      (shownEntries? rest).map fun (entries, left) => (fieldEntry "id" :: entries, left) := by
  have hid : ∀ c ∈ Text.ofString "id", isNamePart c = true := by decide
  have hblanks : ∀ c ∈ Text.ofString "\n            ", Php.isSpace c = true := by decide
  have hline : identifierLine = Text.ofString "\n            " ++ (Text.concat [Php.quote "id",
      " => ", Text.concat [reading, "id"]] ++ .char ',' :: Text.ofString "\n            ") := by
    decide +kernel
  have hcons := Php.elements?_cons (Php.Reads.pair fun _ => Php.reads_field) Php.allowsComma_name
    (Text.ofString "id", ⟨Text.ofString "id", hid⟩) (Text.ofString "\n            " ++ rest)
  rw [hline, List.append_assoc, List.append_assoc, List.cons_append, shownEntries?,
    Php.elements?_blanks hblanks, hcons, Php.elements?_blanks hblanks]
  rfl

/-- The start of the array reads the identifier. -/
theorem fieldsRead_arrayStart (rest : Text) :
    fieldsRead (arrayStart ++ rest) = Text.ofString "id" :: fieldsRead rest := by
  have hid : ∀ c ∈ Text.ofString "id", isNamePart c = true := by decide
  have hbefore : CodePoint.char '$' ∉ Text.ofString "[\n            'id' => " := by decide
  have hafter : CodePoint.char '$' ∉ Text.ofString ",\n            " := by decide
  have hcomma : AfterName (Text.ofString ",\n            " ++ rest) := Php.allowsComma_name _
  have hstart : arrayStart = Text.ofString "[\n            'id' => " ++
      (reading ++ (Text.ofString "id" ++ Text.ofString ",\n            ")) := by
    decide +kernel
  rw [hstart, List.append_assoc, List.append_assoc, List.append_assoc, fieldsRead_free hbefore,
    fieldsRead_field hid hcomma, fieldsRead_free hafter]

/-- The entries for visible attributes show these under their own names. -/
theorem Spelled.shownEntries?_attributes (h : Spelled namespaces a m) (rest : Text) :
    shownEntries? (attributes m ++ rest) =
      (shownEntries? rest).map fun (entries, left) =>
        ((visible m).map fieldEntry ++ entries, left) := by
  have hnames : ∀ name ∈ m.fillable, ∀ c ∈ name, isNamePart c = true :=
    fun name hname => isNamePart_of_tableName (h.fillable name hname)
  unfold attributes visible
  rw [Php.shownEntries?_attributeEntries hnames]

/-- Behind a quiet text, the array shows the identifier, the visible attributes and what follows
them, and these are the fields that are read. -/
theorem Spelled.array_shown (h : Spelled namespaces a m) {head tail left : Text}
    {entries : List (Text × Shown)} (hhead : Quiet head)
    (htail : shownEntries? tail = some (entries, .char ']' :: left)) :
    shownBy? (head ++ (arrayStart ++ (attributes m ++ tail))) =
        some (fieldEntry "id" :: ((visible m).map fieldEntry ++ entries)) ∧
      fieldsRead (head ++ (arrayStart ++ (attributes m ++ tail))) =
        Text.ofString "id" :: (visible m ++ fieldsRead tail) := by
  constructor
  · have hcut : Text.cutAt ['['] (head ++ (arrayStart ++ (attributes m ++ tail))) =
        some (head, identifierLine ++ (attributes m ++ tail)) :=
      Text.cutAt_point_iff.mpr ⟨hhead.arrays, rfl⟩
    have hclosed : Text.dropStart? "]" (.char ']' :: left) = some left := rfl
    simp only [shownBy?, hcut, shownEntries?_identifierLine, h.shownEntries?_attributes, htail,
      hclosed, Option.bind_eq_bind, Option.bind_some, Option.map_some, Option.pure_def]
  · rw [hhead.reads, fieldsRead_arrayStart, h.fieldsRead_attributes]

/-- The array ends without further entries and reads. -/
theorem shownEntries?_end :
    shownEntries? arrayEnd = some ([], .char ']' :: Text.ofString ";\n    \x7d\n\x7d\n") := by
  have hblanks : ∀ c ∈ Text.ofString "\n        ", Php.isSpace c = true := by decide
  have hends : Php.Ends (Php.pair? Php.shown?)
      (.char ']' :: Text.ofString ";\n    \x7d\n\x7d\n") := ⟨rfl, rfl, rfl⟩
  have hsplit : arrayEnd = Text.ofString "\n        " ++
      .char ']' :: Text.ofString ";\n    \x7d\n\x7d\n" := rfl
  rw [hsplit, shownEntries?, Php.elements?_blanks hblanks, Php.elements?_nil hends]

/-- The end of the array reads nothing. -/
theorem fieldsRead_end : fieldsRead arrayEnd = [] := by decide

/-- The stub shows the related rows after the attributes; to show one, it is asked whether its row
is loaded. -/
theorem Spelled.stub_shown (h : Spelled namespaces a m) :
    shownBy? (substitute resourceStub (replacements namespaces a m)) =
        some (fieldEntry "id" :: ((visible m).map fieldEntry ++ m.relations.map relatedEntry)) ∧
      fieldsRead (substitute resourceStub (replacements namespaces a m)) =
        Text.ofString "id" ::
          (visible m ++ m.relations.map fun _ => Text.ofString "whenLoaded") := by
  have hblanks : ∀ c ∈ Text.ofString "\n            ", Php.isSpace c = true := by decide
  have hfree : CodePoint.char '$' ∉ Text.ofString "\n            " := by decide
  have htail : shownEntries? (Text.ofString "\n            " ++ (related m ++ arrayEnd)) =
      some (m.relations.map relatedEntry,
        .char ']' :: Text.ofString ";\n    \x7d\n\x7d\n") := by
    rw [shownEntries?, Php.elements?_blanks hblanks, ← shownEntries?,
      Php.shownEntries?_relationEntries, shownEntries?_end]
    simp
  obtain ⟨hentries, hfields⟩ := h.array_shown (.flatMap h.calm_stubHead) htail
  have htext : substitute resourceStub (replacements namespaces a m) =
      (stubHead namespaces a m).flatMap Piece.filled ++ (arrayStart ++ (attributes m ++
        (Text.ofString "\n            " ++ (related m ++ arrayEnd)))) := by
    rw [resourceStub_eq namespaces a m,
      substitute_calm h.calm_stubHead h.sound_stubArray]
    simp [stubArray, Piece.filled]
  rw [htext, hentries, hfields, fieldsRead_free hfree, h.fieldsRead_related, fieldsRead_end]
  simp

/-- A resource from the skeleton shows and reads the identifier and the visible columns. -/
theorem Spelled.skeleton_shown (h : Spelled namespaces a m) :
    shownBy? (substitute resourceSkeleton (replacements namespaces a m)) =
        some (fieldEntry "id" :: (visible m).map fieldEntry) ∧
      fieldsRead (substitute resourceSkeleton (replacements namespaces a m)) =
        Text.ofString "id" :: visible m := by
  obtain ⟨hentries, hfields⟩ := h.array_shown (.flatMap h.calm_skeletonHead) shownEntries?_end
  have htext : substitute resourceSkeleton (replacements namespaces a m) =
      (skeletonHead namespaces a).flatMap Piece.filled ++
        (arrayStart ++ (attributes m ++ arrayEnd)) := by
    rw [resourceSkeleton_eq namespaces a m,
      substitute_calm h.calm_skeletonHead h.sound_skeletonArray]
    simp [skeletonArray, Piece.filled]
  rw [htext, hentries, hfields, fieldsRead_end]
  simp

/-- With a stub or without, the array shows the identifier, the visible attributes and perhaps some
related rows, and nothing else is read. -/
theorem Spelled.rendered_shown (h : Spelled namespaces a m) (hkind : a.kind = .resource)
    {stub : Option Text} (hstub : stub ∈ [some resourceStub, none]) :
    ∃ related : List Relation,
      shownBy? (choose namespaces a m stub).1 =
        some (fieldEntry "id" :: ((visible m).map fieldEntry ++ related.map relatedEntry)) ∧
      fieldsRead (choose namespaces a m stub).1 =
        Text.ofString "id" :: (visible m ++ related.map fun _ => Text.ofString "whenLoaded") := by
  simp only [List.mem_cons, List.not_mem_nil, or_false] at hstub
  rcases hstub with rfl | rfl
  · have hbundled : resourceStub ∈ bundled.map (·.2) := by simp [bundled]
    rw [choose_bundled _ m h.own hbundled]
    exact ⟨m.relations, h.stub_shown⟩
  · have hleast : skeleton a.kind = resourceSkeleton := by rw [hkind]; rfl
    obtain ⟨hentries, hfields⟩ := h.skeleton_shown
    refine ⟨[], ?_⟩
    rw [choose_none, hleast, hentries, hfields, List.map_nil, List.map_nil, List.append_nil,
      List.append_nil]
    exact ⟨rfl, rfl⟩

end

/-! ## Sensitive names -/

/-- The name holds a word that marks what is sensitive, in any case. -/
def Sensitive (name : Text) : Prop :=
  ∃ word ∈ ["password", "secret", "token"], Text.ofString word <:+: Text.lower name

instance (name : Text) : Decidable (Sensitive name) :=
  decidable_of_iff (["password", "secret", "token"].any fun word =>
      Text.contains (Text.lower name) (Text.ofString word))
    (by simp [Sensitive, Text.contains_iff])

/-- The longer words hold one of the shorter ones. -/
theorem isSensitive_iff {name : Text} : Schema.isSensitive name = true ↔ Sensitive name := by
  have hwords : ∀ term ∈ Schema.sensitiveTerms,
      ∃ word ∈ ["password", "secret", "token"],
        Text.contains term (Text.ofString word) = true := by
    decide
  have hterms : ∀ word ∈ ["password", "secret", "token"],
      Text.ofString word ∈ Schema.sensitiveTerms := by
    decide
  unfold Schema.isSensitive
  rw [List.any_eq_true]
  constructor
  · rintro ⟨term, hterm, hcontains⟩
    obtain ⟨word, hword, hinside⟩ := hwords term hterm
    exact ⟨word, hword, (Text.contains_iff.mp hinside).trans (Text.contains_iff.mp hcontains)⟩
  · rintro ⟨word, hword, hinfix⟩
    exact ⟨word, hterms word hword, Text.contains_iff.mpr hinfix⟩

/-! ## Derived metadata -/

section

variable {s : Settings} {table : Text} {columns : List Column} {reported : List Relation}

/-- The relations of a table start at its columns, and the tables that they refer to are reported or
the plurals of parts of the names of columns. -/
theorem tableNames_relationsOf (hcolumns : ∀ c ∈ columns, TableName c.name)
    (hreported : ∀ r ∈ reported, TableName r.referencedTable) :
    ∀ r ∈ Schema.relationsOf columns reported,
      TableName r.localColumn ∧ TableName r.referencedTable := by
  intro r hr
  unfold Schema.relationsOf at hr
  split at hr
  next =>
    obtain ⟨c, hc, hsuggested⟩ := List.mem_filterMap.mp hr
    have hname := hcolumns c hc
    unfold Column.suggestedRelation? at hsuggested
    split at hsuggested
    next first rest hstem =>
      obtain rfl := Option.some.inj hsuggested
      have hstem := Text.dropEnd?_eq_some_iff.mp hstem
      refine ⟨hname, Naming.tableName_pluralize (hname.of_subset ?_)⟩
      rw [hstem]
      exact List.subset_append_left ..
    next => cases hsuggested
  next =>
    obtain ⟨hmem, hlocal⟩ := List.mem_filter.mp hr
    obtain ⟨c, hc, hname⟩ := List.mem_map.mp (List.elem_iff.mp hlocal)
    exact ⟨hname ▸ hcolumns c hc, hreported r hmem⟩

/-- The method of a relation has a plain name if its column and its table have. -/
theorem plain_methodName {r : Relation} (h : TableName r.localColumn)
    (h' : TableName r.referencedTable) : Plain (Php.methodName r) := by
  unfold Php.methodName
  split
  next first rest hstem =>
    refine Naming.plain_camel (h.of_subset ?_)
    rw [Text.dropEnd?_eq_some_iff.mp hstem]
    exact List.subset_append_left ..
  next => exact Naming.plain_camel (Naming.plain_classOfTable h').tableName

/-- With the standard layout, everything that is put into the resource of a table with names in
ASCII is spelled so. -/
theorem spelled_derive (hs : s.Standard) (htable : TableName table)
    (hcolumns : ∀ c ∈ columns, TableName c.name)
    (hreported : ∀ r ∈ reported, TableName r.referencedTable) (unique : List Text) :
    Spelled (siblingNamespaces s.namespaces)
      (Artifact.standard s (Metadata.derive table columns reported unique).className .resource)
      (Metadata.derive table columns reported unique) := by
  -- Of the settings only the directories matter, and these are the default ones.
  have hown : s.namespaceOf Kind.resource.name =
      ({} : Settings).namespaceOf Kind.resource.name := by
    unfold Settings.namespaceOf
    rw [hs.directories]
  have hsiblings : s.namespaces = ({} : Settings).namespaces := by
    unfold Settings.namespaces
    rw [hs.directories]
  have hrelations := tableNames_relationsOf hcolumns hreported
  have hclass := Naming.plain_classOfTable htable
  constructor
  · have hne : ¬ (s.namespaceOf Kind.resource.name).isEmpty = true := by
      rw [hown]
      decide
    unfold declaredNamespace Artifact.standard
    rw [if_neg hne, hown]
    show Bare (({} : Settings).namespaceOf Kind.resource.name)
    decide
  · rw [hsiblings]
    decide
  · refine ⟨List.append_ne_nil_of_right_ne_nil _ (by decide), ?_⟩
    exact hclass.append (by decide)
  · exact hclass
  · intro name hname
    obtain ⟨c, hc, rfl⟩ := List.mem_map.mp hname
    exact hcolumns c (List.mem_of_mem_filter ((distinctOn_sublist _ _).subset hc))
  · intro r hr
    obtain ⟨hlocal, hreferenced⟩ := hrelations r hr
    exact plain_methodName hlocal hreferenced
  · intro r hr
    exact (Naming.plain_classOfTable (hrelations r hr).2).append (by decide)

/-- What is hidden of the assignable columns is what is sensitive. -/
theorem visible_derive (table : Text) (columns : List Column) (reported : List Relation)
    (unique : List Text) :
    visible (Metadata.derive table columns reported unique) =
      (Metadata.derive table columns reported unique).fillable.filter fun name =>
        ¬ Sensitive name := by
  refine List.filter_congr fun name hname => ?_
  obtain ⟨c, hc, rfl⟩ := List.mem_map.mp hname
  have hcolumn : c.name ∈ columns.map Column.name :=
    List.mem_map_of_mem (List.mem_of_mem_filter ((distinctOn_sublist _ _).subset hc))
  have hhidden : c.name ∈ Schema.hiddenNames columns ↔ Sensitive c.name := by
    rw [Schema.hiddenNames, mem_distinct, List.mem_filter, isSensitive_iff]
    exact and_iff_right hcolumn
  show (!(Schema.hiddenNames columns).elem c.name) = _
  rw [Bool.eq_iff_iff]
  simp [hhidden]

/-- With a stub or without, the resource of a table with names in ASCII reads no sensitive column,
and its array shows every other assignable column once, in the order of the columns, after the
identifier and before the related rows. -/
theorem resource_hides_sensitive (hs : s.Standard) (htable : TableName table)
    (hcolumns : ∀ c ∈ columns, TableName c.name)
    (hreported : ∀ r ∈ reported, TableName r.referencedTable) (unique : List Text) :
    let m := Metadata.derive table columns reported unique
    let a := Artifact.standard s m.className .resource
    let shown := m.fillable.filter fun name => ¬ Sensitive name
    (∀ stub ∈ [some resourceStub, none],
      let text := (choose (siblingNamespaces s.namespaces) a m stub).1
      (∀ c ∈ columns, Sensitive c.name → c.name ∉ fieldsRead text) ∧
      ∃ related : List Relation, shownBy? text =
        some (fieldEntry "id" :: (shown.map fieldEntry ++ related.map relatedEntry))) ∧
    shown.Nodup ∧ shown.Sublist (columns.map Column.name) ∧
    ∀ c ∈ columns, c.Assignable → ¬ Sensitive c.name → c.name ∈ shown := by
  intro m a shown
  have hspelled : Spelled (siblingNamespaces s.namespaces) a m :=
    spelled_derive hs htable hcolumns hreported unique
  have hvisible : visible m = shown := visible_derive table columns reported unique
  -- What is read besides the columns that are shown is not sensitive.
  have hother : ¬ Sensitive "id" ∧ ¬ Sensitive "whenLoaded" := by decide +kernel
  refine ⟨fun stub hstub => ?_, ?_, ?_, ?_⟩
  · obtain ⟨related, hentries, hfields⟩ := hspelled.rendered_shown rfl hstub
    rw [hvisible] at hentries hfields
    refine ⟨fun c _ hsensitive hread => ?_, related, hentries⟩
    rw [hfields, List.mem_cons, List.mem_append] at hread
    rcases hread with hread | hread | hread
    · exact hother.1 (hread ▸ hsensitive)
    · exact of_decide_eq_true (List.mem_filter.mp hread).2 hsensitive
    · obtain ⟨_, _, hread⟩ := List.mem_map.mp hread
      exact hother.2 (hread ▸ hsensitive)
  · exact (Schema.nodup_fillable columns).filter _
  · have hkept : (Schema.fillableColumns columns).Sublist columns :=
      (distinctOn_sublist _ _).trans List.filter_sublist
    exact List.filter_sublist.trans (hkept.map Column.name)
  · intro c hc hassignable hordinary
    refine List.mem_filter.mpr ⟨?_, decide_eq_true hordinary⟩
    refine mem_map_distinctOn_iff.mpr (List.mem_map_of_mem (List.mem_filter.mpr ⟨hc, ?_⟩))
    exact Schema.isFillable_iff.mpr hassignable

/-- Of these columns, the resource shows the name and the author, and neither the key of the
interface nor the password, however they are spelled. -/
theorem resource_hides_sensitive_users :
    let columns : List Column := [{ name := "id" }, { name := "API_Token" },
      { name := "name" }, { name := "passwordHash" }, { name := "author_id" }, { name := "name" }]
    let m := Metadata.derive "users" columns [] []
    let text := (choose (siblingNamespaces ({} : Settings).namespaces)
      (Artifact.standard {} m.className .resource) m (some resourceStub)).1
    Text.ofString "API_Token" ∉ fieldsRead text ∧ Text.ofString "passwordHash" ∉ fieldsRead text ∧
      ∃ related : List Relation, shownBy? text = some (["id", "name", "author_id"].map
        (fun name => fieldEntry (Text.ofString name)) ++ related.map relatedEntry) := by
  intro columns m text
  have hs : ({} : Settings).Standard := ⟨rfl, rfl, rfl, rfl⟩
  have htable : TableName "users" := by decide
  have hcolumns : ∀ c ∈ columns, TableName c.name := by decide
  have hreported : ∀ r ∈ ([] : List Relation), TableName r.referencedTable := nofun
  have hsensitive : Sensitive "API_Token" ∧ Sensitive "passwordHash" := by decide +kernel
  have hshown : (m.fillable.filter fun name => ¬ Sensitive name) =
      ["name", "author_id"].map Text.ofString := by
    decide +kernel
  obtain ⟨hrendered, _⟩ :=
    resource_hides_sensitive hs htable hcolumns hreported []
  obtain ⟨hhidden, related, hentries⟩ :=
    hrendered (some resourceStub) (List.mem_cons_self ..)
  refine ⟨hhidden { name := "API_Token" } (by simp [columns]) hsensitive.1,
    hhidden { name := "passwordHash" } (by simp [columns]) hsensitive.2, related, ?_⟩
  rw [hshown] at hentries
  exact hentries

end

end Scaffold.Stub
