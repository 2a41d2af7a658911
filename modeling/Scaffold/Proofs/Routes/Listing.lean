import Scaffold.Proofs.Files.Preservation

/-!
# What a routes file lists

Registering looks for a line in what is read of the routes file, and that is a search for a part of
a text. It finds the line in the text that was there before, or in one of the lines that were added
since: the line feeds around an added line keep an occurrence from reaching out of it
(`infix_listing`). So as long as no line is a part of another, the file holds its old content and
then every line once that was registered and not held before (`Listed.register`).

That no line is a part of another is a condition on the declarations, not on the file: `posts` is a
part of `posts_archive`, but the declaration of the one ends its name with a quote, so it is no part
of the other (`infix_apiRoute_iff`).

The old content is any bytes that can be decoded. It may hold a line already, in which case it is
not added, and it may end without a line feed, which is why an addition begins with one.
-/

namespace Scaffold.Route

open Files
open Program (bind_of_ok)
open Utf8 (Bytes)

/-! ## Lines -/

/-- A text that stands on one line and has an encoding. -/
structure Line (t : Text) : Prop where
  noFeed : CodePoint.char '\n' ∉ t
  noReturn : CodePoint.char '\r' ∉ t
  encodable : ∀ c ∈ t, Utf8.isSurrogate c = false

/-- What is added to the routes file for some lines, one after another. -/
def listing (lines : List Text) : Text :=
  lines.flatMap fun line => .char '\n' :: (line ++ [.char '\n'])

/-- What is added is a normalised declaration between line feeds. -/
theorem addition_eq (declaration : Text) :
    addition declaration = .char '\n' :: (normalize declaration ++ [.char '\n']) := by
  simp [addition, Text.concat, Text.ofString]

/-- Lines after others are listed after them. -/
theorem listing_append (lines lines' : List Text) :
    listing (lines ++ lines') = listing lines ++ listing lines' :=
  List.flatMap_append

/-- One more line is listed by what is added for it. -/
theorem listing_concat (lines : List Text) (declaration : Text) :
    listing (lines ++ [normalize declaration]) = listing lines ++ addition declaration := by
  rw [listing_append, addition_eq]
  exact congrArg (listing lines ++ ·) (List.flatMap_singleton ..)

/-- A list of lines has an encoding. -/
theorem listing_encodable {lines : List Text} (h : ∀ line ∈ lines, Line line) :
    ∀ c ∈ listing lines, Utf8.isSurrogate c = false := by
  intro c hc
  obtain ⟨line, hline, hc⟩ := List.mem_flatMap.mp hc
  rcases List.mem_cons.mp hc with rfl | hc
  · rfl
  · rcases List.mem_append.mp hc with hc | hc
    · exact (h line hline).encodable c hc
    · rw [List.mem_singleton.mp hc]
      rfl

/-- A line can be read of a text with lines added exactly if it can be read of the text or is part
of one of the added lines. -/
theorem infix_listing {line : Text} (hline : CodePoint.char '\n' ∉ line) {lines : List Text}
    (hlines : ∀ l ∈ lines, Line l) (s : Text) :
    line <:+: universalLines false (s ++ listing lines) ↔
      line <:+: universalLines false s ∨ ∃ l ∈ lines, line <:+: l := by
  induction lines generalizing s with
  | nil =>
    have hempty : listing [] = [] := rfl
    rw [hempty, List.append_nil]
    exact ⟨Or.inl, fun h => h.elim id fun ⟨_, hl, _⟩ => nomatch hl⟩
  | cons l lines ih =>
    obtain ⟨hl, hlines⟩ := List.forall_mem_cons.mp hlines
    have hsplit : s ++ listing (l :: lines) =
        (s ++ .char '\n' :: (l ++ [.char '\n'])) ++ listing lines := by
      rw [List.append_assoc]
      rfl
    rw [hsplit, ih hlines, infix_universalLines_append hline hl.noReturn, or_assoc]
    simp only [List.mem_cons, exists_eq_or_imp]

/-! ## Bytes -/

/-- A text without surrogates lands with all its bytes. -/
theorem landed_of_chars {t : Text} (h : ∀ c ∈ t, Utf8.isSurrogate c = false) :
    landed t = t.flatMap fun c => Utf8.bytesOf c.code := by
  unfold landed
  rw [Utf8.encode_of_chars h]

/-- Texts that have an encoding land one after the other. -/
theorem landed_append {s t : Text} (hs : ∀ c ∈ s, Utf8.isSurrogate c = false)
    (ht : ∀ c ∈ t, Utf8.isSurrogate c = false) : landed (s ++ t) = landed s ++ landed t := by
  rw [landed_of_chars hs, landed_of_chars ht, landed_of_chars, List.flatMap_append]
  intro c hc
  exact (List.mem_append.mp hc).elim (hs c) (ht c)

/-- What has landed is read back. -/
theorem decode_landed {t : Text} (h : ∀ c ∈ t, Utf8.isSurrogate c = false) :
    Utf8.decode (landed t) = .ok t := by
  rw [landed_of_chars h]
  exact Utf8.decode_encode (Utf8.encode_of_chars h)

/-! ## One registration -/

/-- The content of a routes file before any line is added: its old content, or the first lines of a
new file. -/
def ground (old : Option Bytes) : Bytes := old.getD (landed fileHeader)

/-- Where the path leads after the file was started, there is the ground of what was there before,
unless the path was led to it on a detour. -/
theorem ensureFile_content? {path : Path} {t t₁ : Tree} {old : Bytes}
    (h : ensureFile path t = .ok () t₁)
    (hold : t₁.node? (t.destination path) = some (.file old))
    (hdetour : (t.content? (t.destination path)).isSome = true →
      ¬ Detours t path (t.destination path)) :
    old = ground (t.content? (t.destination path)) := by
  rw [← content?_eq_some_iff] at hold
  rcases ensureFile_contents h hdetour with rfl | ⟨hnone, hheader, _⟩
  · rw [hold]
    rfl
  · rw [hheader] at hold
    cases hold
    rw [hnone]
    rfl

/-- What a registration that returns comes to. The line is looked for in what is read of the ground,
and is added to it if it is not found. -/
theorem register_content? {path : Path} {declaration : Text} {added : Bool} {t t' : Tree}
    (h : register path declaration t = .ok added t')
    (hdetour : (t.content? (t.destination path)).isSome = true →
      ¬ Detours t path (t.destination path)) :
    ∃ text, address path t' = .ok (t.destination path) t' ∧
      Utf8.decode (ground (t.content? (t.destination path))) = .ok text ∧
      (added = true ↔ ¬ normalize declaration <:+: universalLines false text) ∧
      t'.content? (t.destination path) = some (ground (t.content? (t.destination path)) ++
        if added = true then landed (addition declaration) else []) := by
  obtain ⟨t₁, x, old, text, hfile, hx, hold, hdecode, hcases⟩ := register_ok h
  obtain ⟨_, hwrite⟩ := ensureFile_ok hfile
  obtain rfl : x = t.destination path := by
    rw [destination_of_address hx, destination_eq (Artifact.write_grows hwrite).workingDirectory]
  obtain rfl := ensureFile_content? hfile hold hdetour
  refine ⟨text, ?_⟩
  -- The line was found and nothing was written, or it was not and is now at the end.
  rcases hcases with ⟨rfl, rfl, hholds⟩ | ⟨rfl, bytes, hbytes, rfl⟩
  · refine ⟨hx, hdecode, ⟨nofun, fun hlacks => absurd (Text.contains_iff.mp hholds) hlacks⟩, ?_⟩
    rw [content?_eq_some_iff.mpr hold]
    simp
  · have hnode : t₁.node? (t.destination path) ≠ some .directory := ne_directory hold
    have htext : readText path t₁ = .ok (universalLines false text) t₁ :=
      readText_ok_iff.mpr ⟨_, text, readBytes_ok_iff.mpr ⟨rfl, _, hx, hold⟩, hdecode, rfl⟩
    refine ⟨(grows_set hnode _).address hx, hdecode, ⟨fun _ hholds => ?_, fun _ => rfl⟩, ?_⟩
    · rw [register_present hfile htext (Text.contains_iff.mpr hholds)] at h
      cases h
    · rw [content?_eq_some_iff, node?_set_self hnode, if_pos rfl]
      have hadded : landed (addition declaration) = bytes := by
        unfold landed
        rw [hbytes]
      rw [hadded]

/-! ## Many registrations -/

/-- The content of the routes file after lines were added to its old content. -/
def listed (old : Option Bytes) (lines : List Text) : Option Bytes :=
  if lines = [] then old else some (ground old ++ landed (listing lines))

/-- A file with lines listed in it is what it was with the lines after it. -/
theorem ground_listed (old : Option Bytes) (lines : List Text) :
    ground (listed old lines) = ground old ++ landed (listing lines) := by
  unfold listed
  split
  next h =>
    rw [h]
    exact (List.append_nil _).symm
  next => rfl

/-- The content of a new file is the encoding of its first lines and the lines added. -/
theorem encode_listing {lines : List Text} (h : ∀ l ∈ lines, Line l) :
    Utf8.encode (fileHeader ++ listing lines) = .ok (ground none ++ landed (listing lines)) := by
  have hheader : ∀ c ∈ fileHeader, Utf8.isSurrogate c = false := by decide
  have hall : ∀ c ∈ fileHeader ++ listing lines, Utf8.isSurrogate c = false :=
    fun c hc => (List.mem_append.mp hc).elim (hheader c) (listing_encodable h c)
  rw [Utf8.encode_of_chars hall, ← landed_of_chars hall,
    landed_append hheader (listing_encodable h)]
  rfl

/-- What is read of the ground, if it can be read. -/
def groundText (old : Option Bytes) : Text :=
  universalLines false ((Utf8.decode (ground old)).toOption.getD [])

theorem groundText_none : groundText none = fileHeader := by decide

/-- A new file holds no line. -/
theorem groundText_none_lacks (declaration : Text) :
    ¬ normalize declaration <:+: groundText none := by
  rw [groundText_none, ← Text.contains_iff, fileHeader_lacks]
  exact Bool.false_ne_true

/-- What is read of the old content is its text, with one kind of line ends. -/
theorem groundText_of_decode {old : Option Bytes} {text : Text}
    (h : Utf8.decode (ground old) = .ok text) : groundText old = universalLines false text := by
  unfold groundText
  rw [h]
  rfl

/-- A further line follows those before it. -/
theorem listed_concat {lines : List Text} {declaration : Text} (hlines : ∀ l ∈ lines, Line l)
    (hline : Line (normalize declaration)) (old : Option Bytes) :
    listed old (lines ++ [normalize declaration]) =
      some (ground (listed old lines) ++ landed (addition declaration)) := by
  have haddition : ∀ c ∈ addition declaration, Utf8.isSurrogate c = false := by
    have hone := listing_encodable (List.forall_mem_singleton.mpr hline)
    rw [← List.nil_append [normalize declaration], listing_concat] at hone
    exact hone
  rw [ground_listed, listed, if_neg (by simp), listing_concat,
    landed_append (listing_encodable hlines) haddition, List.append_assoc]

/-- If there is a file, or if there are lines to be held, there is a file afterwards. -/
theorem listed_of_ground {old : Option Bytes} {lines : List Text}
    (h : ¬ (old = none ∧ lines = [])) : listed old lines = some (ground (listed old lines)) := by
  unfold listed
  split
  next hnone =>
    cases old with
    | some content => rfl
    | none => exact absurd ⟨rfl, hnone⟩ h
  next => rfl

/-- The file holds its old content and the lines that were added to it. Where lines were added, the
old content can be read. -/
structure Listed (t : Tree) (x : Address) (old : Option Bytes) (lines : List Text) : Prop where
  content : t.content? x = listed old lines
  readable : lines ≠ [] → ∃ text, Utf8.decode (ground old) = .ok text

/-- Nothing is listed yet. -/
theorem Listed.nil (t : Tree) (x : Address) : Listed t x (t.content? x) [] :=
  ⟨rfl, fun h => absurd rfl h⟩

/-- Only the content at the address counts. -/
theorem Listed.congr {t t' : Tree} {x : Address} {old : Option Bytes} {lines : List Text}
    (h : Listed t x old lines) (heq : t'.content? x = t.content? x) : Listed t' x old lines :=
  ⟨heq.trans h.content, h.readable⟩

/-- What is read of the file is what is read of the ground, and then the lines. -/
theorem Listed.text {t : Tree} {x : Address} {old : Option Bytes} {lines : List Text} {text : Text}
    (h : Listed t x old lines) (hlines : ∀ l ∈ lines, Line l)
    (hdecode : Utf8.decode (ground (t.content? x)) = .ok text) :
    ∃ before, Utf8.decode (ground old) = .ok before ∧ text = before ++ listing lines := by
  rw [h.content, ground_listed] at hdecode
  by_cases hnone : lines = []
  · rw [hnone] at hdecode ⊢
    have hempty : landed (listing []) = [] := rfl
    rw [hempty, List.append_nil] at hdecode
    exact ⟨text, hdecode, (List.append_nil _).symm⟩
  · obtain ⟨before, hbefore⟩ := h.readable hnone
    rw [Utf8.decode_append hbefore (decode_landed (listing_encodable hlines))] at hdecode
    cases hdecode
    exact ⟨before, hbefore, rfl⟩

/-- A registration that returns adds its line if the line was neither held before nor added since,
provided that it is no part of another line. -/
theorem Listed.register {path : Path} {declaration : Text} {added : Bool} {t t' : Tree}
    {old : Option Bytes} {lines : List Text} (h : Listed t (t.destination path) old lines)
    (hregister : Route.register path declaration t = .ok added t')
    (hline : Line (normalize declaration)) (hlines : ∀ l ∈ lines, Line l)
    (hpart : ∀ l ∈ lines, normalize declaration <:+: l → normalize declaration = l)
    (hdetour : (t.content? (t.destination path)).isSome = true →
      ¬ Detours t path (t.destination path)) :
    address path t' = .ok (t.destination path) t' ∧
      (added = true ↔ ¬ normalize declaration <:+: groundText old ∧
        normalize declaration ∉ lines) ∧
      Listed t' (t.destination path) old
        (if added = true then lines ++ [normalize declaration] else lines) := by
  obtain ⟨text, hplace, hdecode, hadded, hcontent⟩ := register_content? hregister hdetour
  obtain ⟨before, hbefore, rfl⟩ := h.text hlines hdecode
  have hmember : (∃ l ∈ lines, normalize declaration <:+: l) ↔ normalize declaration ∈ lines := by
    refine ⟨fun hparts => ?_, fun hl => ⟨_, hl, List.infix_refl _⟩⟩
    obtain ⟨l, hl, hinfix⟩ := hparts
    rw [hpart l hl hinfix]
    exact hl
  rw [infix_listing hline.noFeed hlines, hmember, ← groundText_of_decode hbefore, not_or] at hadded
  rw [h.content] at hcontent
  refine ⟨hplace, hadded, ?_⟩
  cases added with
  | true =>
    refine ⟨?_, fun _ => ⟨before, hbefore⟩⟩
    rw [hcontent, if_pos rfl, if_pos rfl, listed_concat hlines hline]
  | false =>
    refine ⟨?_, h.readable⟩
    rw [hcontent, if_neg Bool.false_ne_true, if_neg Bool.false_ne_true, List.append_nil]
    -- The file was there, for a new one would have had the line added.
    refine (listed_of_ground ?_).symm
    rintro ⟨rfl, rfl⟩
    exact Bool.false_ne_true (hadded.mpr ⟨groundText_none_lacks _, List.not_mem_nil⟩)

end Scaffold.Route
