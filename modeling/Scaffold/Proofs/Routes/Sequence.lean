import Scaffold.Proofs.Files.Passable
import Scaffold.Proofs.Routes.Listing

/-!
# Sequences of registrations

What a registration gives, and what it adds, is told by the text of the routes file alone (`answer`,
`gained`), so what comes of many is told by the text before the first of them (`Held.registerAll`):
the file keeps its bytes and gets the lines that were not part of what was read of it. Every line
that has an encoding is held then, and the same registrations once more add nothing
(`answers_again`).

The induction is over the declarations. A step needs the file to be readable, the directory above it
to stand and the medium to take what is added; it leaves a file of which the same holds (`Held`),
with a text that has grown by what the step added.

A declaration with a surrogate has no encoding. It fails and adds nothing, however often it is
registered, and those after it are registered as if it had not been there.
-/

namespace Scaffold.Route

open Files
open Program (after attempt attempt_of_eq attempt_of_error attempt_of_ok bind_of_error bind_of_ok
  error_of_fails fails mapM_cons_ok_iff)
open Utf8 (Bytes)

/-- Registers declarations one after another, whatever comes of each. -/
def registerAll (path : Path) (declarations : List Text) : Access (List (Except Failure Bool)) :=
  declarations.mapM fun declaration => attempt (register path declaration)

/-- What a registration looks for its line in. -/
def reading (path : Path) : Access Text := do
  ensureFile path
  readText path

/-- The lines that were added, by the results of the registrations. -/
def entered (declarations : List Text) (results : List (Except Failure Bool)) : List Text :=
  (declarations.zip results).filterMap fun (declaration, result) =>
    match result with
    | .ok true => some (normalize declaration)
    | _ => none

/-! ## By the text alone -/

/-- What a registration gives where the file holds a text. -/
def answer (text declaration : Text) : Except Failure Bool :=
  match Utf8.encode (addition declaration) with
  | .ok _ => .ok (!Text.contains (universalLines false text) (normalize declaration))
  | .error e => .error (.unencodable e)

/-- What is added to the text. -/
def gained (text declaration : Text) : Text :=
  match answer text declaration with
  | .ok true => addition declaration
  | _ => []

/-- The text after some registrations. -/
def textAfter (text : Text) (declarations : List Text) : Text :=
  declarations.foldl (fun text declaration => text ++ gained text declaration) text

/-- What each of some registrations gives. -/
def answers (text : Text) : List Text → List (Except Failure Bool)
  | [] => []
  | declaration :: rest => answer text declaration :: answers (text ++ gained text declaration) rest

section

variable (text declaration : Text) (declarations : List Text)

/-- A declaration that has an encoding is answered by whether it is there. -/
theorem answer_of_encode {bytes : Bytes} (h : Utf8.encode (addition declaration) = .ok bytes) :
    answer text declaration =
      .ok (!Text.contains (universalLines false text) (normalize declaration)) := by
  rw [answer, h]

/-- One that has none fails. -/
theorem answer_of_encode_error {e : Utf8.EncodeError}
    (h : Utf8.encode (addition declaration) = .error e) :
    answer text declaration = .error (.unencodable e) := by
  rw [answer, h]

/-- What is added for a line holds surrogates only if the line does. -/
theorem chars_addition_iff : (∀ c ∈ addition declaration, Utf8.isSurrogate c = false) ↔
    ∀ c ∈ normalize declaration, Utf8.isSurrogate c = false := by
  have hfeed : Utf8.isSurrogate (.char '\n') = false := rfl
  rw [addition_eq, List.forall_mem_cons, List.forall_mem_append, List.forall_mem_singleton]
  simp only [hfeed, true_and, and_true]

/-- A line without surrogates is answered by whether it is held; any other one fails. -/
theorem answer_spec :
    ((∀ c ∈ normalize declaration, Utf8.isSurrogate c = false) →
      ∃ added, answer text declaration = .ok added ∧
        (added = true ↔ ¬ normalize declaration <:+: universalLines false text)) ∧
    (¬ (∀ c ∈ normalize declaration, Utf8.isSurrogate c = false) →
      ∃ e, answer text declaration = .error (.unencodable e)) := by
  rw [← chars_addition_iff, ← Utf8.encode_ok_iff]
  constructor
  · rintro ⟨bytes, hbytes⟩
    refine ⟨_, answer_of_encode text declaration hbytes, ?_⟩
    rw [Bool.not_eq_true', ← Bool.not_eq_true, Text.contains_iff]
  · intro hnone
    cases hencode : Utf8.encode (addition declaration) with
    | ok bytes => exact absurd ⟨bytes, hencode⟩ hnone
    | error e => exact ⟨e, answer_of_encode_error text declaration hencode⟩

/-- Every declaration is answered. -/
theorem length_answers : (answers text declarations).length = declarations.length := by
  induction declarations generalizing text with
  | nil => rfl
  | cons declaration rest ih => exact congrArg (· + 1) (ih _)

/-- Every registration goes by the text that those before it left. -/
theorem getElem?_answers {i : Nat} (h : declarations[i]? = some declaration) :
    (answers text declarations)[i]? =
      some (answer (textAfter text (declarations.take i)) declaration) := by
  induction declarations generalizing text i with
  | nil => cases h
  | cons first rest ih =>
    cases i with
    | zero =>
      cases h
      rfl
    | succ i => exact ih _ h

/-- What is entered is what the first adds, and then what the others add. -/
theorem entered_cons (result : Except Failure Bool) (results : List (Except Failure Bool)) :
    entered (declaration :: declarations) (result :: results) =
      entered [declaration] [result] ++ entered declarations results := by
  rw [entered, List.zip_cons_cons, ← List.singleton_append, List.filterMap_append]
  rfl

/-- What is entered for one declaration is what it adds to the file. -/
theorem listing_entered_answer :
    listing (entered [declaration] [answer text declaration]) = gained text declaration := by
  unfold gained
  rcases answer text declaration with e | _ | _
  · rfl
  · rfl
  · exact (listing_concat [] declaration).trans (List.nil_append _)

/-- The text grows by the lines that are added. -/
theorem textAfter_eq :
    textAfter text declarations =
      text ++ listing (entered declarations (answers text declarations)) := by
  induction declarations generalizing text with
  | nil => exact (List.append_nil text).symm
  | cons declaration rest ih =>
    show textAfter (text ++ gained text declaration) rest = _
    rw [ih, answers, entered_cons, listing_append, listing_entered_answer, List.append_assoc]

end

/-! ## The same once more -/

section

variable (text : Text) {declaration : Text} {declarations : List Text}

/-- A declaration is answered in the negative once it was registered, or has no encoding still. -/
theorem answer_later (h : CodePoint.char '\r' ∉ normalize declaration) (more : Text) :
    answer (text ++ gained text declaration ++ more) declaration =
      (answer text declaration).map fun _ => false := by
  cases hencode : Utf8.encode (addition declaration) with
  | error e =>
    rw [answer_of_encode_error _ _ hencode, answer_of_encode_error _ _ hencode]
    rfl
  | ok bytes =>
    have hlater : Text.contains (universalLines false (text ++ gained text declaration ++ more))
        (normalize declaration) = true := by
      rw [Text.contains_iff, List.append_assoc]
      obtain ⟨next, hnext⟩ := universalLines_append false text (gained text declaration ++ more)
      rw [hnext]
      cases hholds : Text.contains (universalLines false text) (normalize declaration) with
      | true => exact (Text.contains_iff.mp hholds).trans (List.prefix_append _ _).isInfix
      | false =>
        -- The line was added, and the line feed before it ends whatever line was open.
        have hgained : gained text declaration =
            .char '\n' :: (normalize declaration ++ [.char '\n']) := by
          rw [gained, answer_of_encode _ _ hencode, hholds]
          exact addition_eq declaration
        rw [hgained, List.cons_append, List.append_assoc]
        exact (infix_universalLines h next _).trans (List.suffix_append _ _).isInfix
    rw [answer_of_encode _ _ hencode, answer_of_encode _ _ hencode, hlater]
    rfl

/-- After some registrations each of them is answered in the negative or fails still. -/
theorem map_answer_textAfter (h : ∀ d ∈ declarations, CodePoint.char '\r' ∉ normalize d) :
    declarations.map (answer (textAfter text declarations)) =
      (answers text declarations).map (Except.map fun _ => false) := by
  induction declarations generalizing text with
  | nil => rfl
  | cons declaration rest ih =>
    obtain ⟨hfirst, hrest⟩ := List.forall_mem_cons.mp h
    show answer (textAfter (text ++ gained text declaration) rest) declaration :: _ = _
    have hlater := answer_later text hfirst
      (listing (entered rest (answers (text ++ gained text declaration) rest)))
    rw [← textAfter_eq] at hlater
    rw [answers, List.map_cons, hlater]
    exact congrArg _ (ih _ hrest)

/-- Where nothing is added, every declaration goes by the same text. -/
theorem answers_of_idle (h : ∀ d ∈ declarations, gained text d = []) :
    answers text declarations = declarations.map (answer text) ∧
      textAfter text declarations = text := by
  induction declarations with
  | nil => exact ⟨rfl, rfl⟩
  | cons declaration rest ih =>
    obtain ⟨hfirst, hrest⟩ := List.forall_mem_cons.mp h
    obtain ⟨hanswers, htext⟩ := ih hrest
    refine ⟨?_, ?_⟩
    · rw [answers, hfirst, List.append_nil, hanswers]
      rfl
    · show textAfter (text ++ gained text declaration) rest = text
      rw [hfirst, List.append_nil, htext]

/-- Once more, the same registrations add nothing. -/
theorem answers_again (h : ∀ d ∈ declarations, CodePoint.char '\r' ∉ normalize d) :
    answers (textAfter text declarations) declarations =
        (answers text declarations).map (Except.map fun _ => false) ∧
      textAfter (textAfter text declarations) declarations = textAfter text declarations := by
  have hidle : ∀ d ∈ declarations, gained (textAfter text declarations) d = [] := by
    intro d hd
    have hmem : answer (textAfter text declarations) d ∈
        (answers text declarations).map (Except.map fun _ => false) := by
      rw [← map_answer_textAfter text h]
      exact List.mem_map_of_mem hd
    obtain ⟨result, _, hresult⟩ := List.mem_map.mp hmem
    rw [gained, ← hresult]
    cases result <;> rfl
  obtain ⟨hanswers, htext⟩ := answers_of_idle _ hidle
  exact ⟨hanswers.trans (map_answer_textAfter text h), htext⟩

end

/-! ## Files that can be read -/

/-- The medium takes whatever is added to the file at the address. -/
def Ample (t : Tree) (x : Address) : Prop := ∀ held added, t.medium x held added = none

/-- The path leads to a file with these bytes, they are the bytes of the text, and more can be
added to them. -/
structure Held (t : Tree) (path : Path) (bytes : Bytes) (text : Text) : Prop where
  leads : address path t = .ok (t.destination path) t
  file : t.node? (t.destination path) = some (.file bytes)
  decodes : Utf8.decode bytes = .ok text
  ample : Ample t (t.destination path)

namespace Held

variable {t : Tree} {path : Path} {bytes : Bytes} {text declaration : Text}
  {declarations : List Text}

/-- A line that is part of what is read is registered. -/
theorem registered (h : Held t path bytes text) {line : Text}
    (hline : line <:+: universalLines false text) : Registered t path line :=
  ⟨_, bytes, text, h.leads, h.file, h.decodes, hline⟩

theorem ensureFile (h : Held t path bytes text) : Route.ensureFile path t = .ok () t :=
  (h.registered List.nil_infix).ensureFile

theorem readText (h : Held t path bytes text) :
    Files.readText path t = .ok (universalLines false text) t :=
  readText_ok_iff.mpr ⟨bytes, text, readBytes_ok_iff.mpr ⟨rfl, _, h.leads, h.file⟩, h.decodes, rfl⟩

theorem free (h : Held t path bytes text) : t.node? (t.destination path) ≠ some .directory :=
  ne_directory h.file

/-- The bytes of a text can be added. -/
theorem append (h : Held t path bytes text) {more : Text} {added : Bytes}
    (hmore : Utf8.encode more = .ok added) :
    Held (t.set (t.destination path) (.file (bytes ++ added))) path (bytes ++ added)
      (text ++ more) :=
  ⟨(grows_set h.free _).address h.leads, node?_set_self h.free _,
    Utf8.decode_append h.decodes (Utf8.decode_encode hmore), h.ample⟩

/-- A file holds no line that has no encoding. -/
theorem lacks (h : Held t path bytes text) {e : Utf8.EncodeError}
    (hencode : Utf8.encode (addition declaration) = .error e) :
    Text.contains (universalLines false text) (normalize declaration) = false := by
  rw [← Bool.not_eq_true, Text.contains_iff]
  intro hpart
  have hchars : ∀ c ∈ normalize declaration, Utf8.isSurrogate c = false := by
    intro c hc
    rcases mem_of_mem_universalLines (hpart.subset hc) with hc | rfl
    · exact Utf8.chars_of_decode h.decodes c hc
    · rfl
  rw [Utf8.encode_of_chars ((chars_addition_iff declaration).mpr hchars)] at hencode
  cases hencode

/-- What comes of one registration. -/
theorem attempt_register (h : Held t path bytes text) (declaration : Text) :
    ∃ added, Utf8.encode (gained text declaration) = .ok added ∧
      attempt (register path declaration) t =
        .ok (answer text declaration) (t.set (t.destination path) (.file (bytes ++ added))) := by
  have hsame : t.set (t.destination path) (.file (bytes ++ [])) = t := by
    rw [List.append_nil, set_same h.file]
  cases hencode : Utf8.encode (addition declaration) with
  | error e =>
    have hgained : gained text declaration = [] := by
      rw [gained, answer_of_encode_error _ _ hencode]
    refine ⟨[], by rw [hgained]; rfl, ?_⟩
    -- The file is opened, but nothing gets into it.
    have hedit := edit_unencodable id h.leads h.free hencode
    rw [held_of_file h.file, id, set_same h.file] at hedit
    rw [answer_of_encode_error _ _ hencode, hsame]
    refine attempt_of_error ?_
    rw [register_lacking h.ensureFile h.readText (h.lacks hencode)]
    exact bind_of_error hedit _
  | ok added =>
    rw [answer_of_encode _ _ hencode]
    cases hholds : Text.contains (universalLines false text) (normalize declaration) with
    | true =>
      have hgained : gained text declaration = [] := by
        rw [gained, answer_of_encode _ _ hencode, hholds]
        rfl
      refine ⟨[], by rw [hgained]; rfl, ?_⟩
      rw [hsame]
      exact attempt_of_ok (register_present h.ensureFile h.readText hholds)
    | false =>
      have hgained : gained text declaration = addition declaration := by
        rw [gained, answer_of_encode _ _ hencode, hholds]
        rfl
      refine ⟨added, by rw [hgained, hencode], ?_⟩
      have hedit := edit_of_address id h.leads h.free hencode (h.ample _ _)
      rw [held_of_file h.file] at hedit
      refine attempt_of_ok ?_
      rw [register_lacking h.ensureFile h.readText hholds]
      exact bind_of_ok hedit _

/-- What comes of many. -/
theorem registerAll (h : Held t path bytes text) (declarations : List Text) :
    ∃ added, Utf8.encode (listing (entered declarations (answers text declarations))) = .ok added ∧
      Route.registerAll path declarations t =
        .ok (answers text declarations) (t.set (t.destination path) (.file (bytes ++ added))) := by
  induction declarations generalizing t bytes text with
  | nil =>
    refine ⟨[], rfl, ?_⟩
    rw [List.append_nil, set_same h.file]
    rfl
  | cons declaration rest ih =>
    obtain ⟨first, hfirst, hregister⟩ := h.attempt_register declaration
    obtain ⟨more, hmore, hrest⟩ := ih (h.append hfirst)
    refine ⟨first ++ more, ?_, ?_⟩
    · rw [answers, entered_cons, listing_append, listing_entered_answer]
      exact Utf8.encode_append hfirst hmore
    · have hplace : (t.set (t.destination path) (.file (bytes ++ first))).destination path =
          t.destination path := rfl
      rw [hplace, set_set, List.append_assoc] at hrest
      exact mapM_cons_ok_iff.mpr ⟨_, _, _, hregister, hrest, rfl⟩

/-- What comes of many leaves a file that holds the text after them. -/
theorem textAfter (h : Held t path bytes text) {added : Bytes}
    (hadded : Utf8.encode (listing (entered declarations (answers text declarations))) =
      .ok added) :
    Held (t.set (t.destination path) (.file (bytes ++ added))) path (bytes ++ added)
      (Route.textAfter text declarations) := by
  rw [textAfter_eq]
  exact h.append hadded

/-- The same registrations once more change nothing. -/
theorem registerAll_again (h : Held t path bytes (Route.textAfter text declarations))
    (hreturn : ∀ d ∈ declarations, CodePoint.char '\r' ∉ normalize d) :
    Route.registerAll path declarations t =
      .ok ((answers text declarations).map (Except.map fun _ => false)) t := by
  obtain ⟨hanswers, htext⟩ := answers_again text hreturn
  obtain ⟨added, hadded, hagain⟩ := h.registerAll declarations
  have hnone : listing (entered declarations
      (answers (Route.textAfter text declarations) declarations)) = [] := by
    rw [textAfter_eq] at htext
    exact List.append_right_eq_self.mp htext
  rw [hnone] at hadded
  obtain rfl : [] = added := Except.ok.inj hadded
  rw [hagain, hanswers, List.append_nil, set_same h.file]

end Held

/-! ## Files that can be started -/

/-- The path leads to a file that can be read and added to, or nothing stands there and such a file
can be made. -/
inductive Ready (t : Tree) (path : Path) : Prop
  | held {bytes : Bytes} {text : Text} (h : Held t path bytes text)
  | free (passable : Passable t path) (free : t.node? (t.destination path) = none)
      (ample : Ample t (t.destination path))

/-- Once the file is started, it holds what it held, or its first lines. -/
theorem Ready.started {t : Tree} {path : Path} (h : Ready t path) (hrooted : Rooted t)
    (hdown : Text.ofString ".." ∉ path.segments) :
    ∃ t' text, ensureFile path t = .ok () t' ∧ t'.destination path = t.destination path ∧
      Held t' path (ground (t.content? (t.destination path))) text := by
  cases h with
  | @held bytes text h =>
    refine ⟨t, text, h.ensureFile, rfl, ?_⟩
    rw [content?_eq_some_iff.mpr h.file]
    exact h
  | free hpassable hfree hample =>
    -- Nothing stands there yet, so the old content is what the file is started with.
    have hground : ground (t.content? (t.destination path)) = landed fileHeader := by
      unfold Tree.content?
      rw [hfree]
      rfl
    have hencode : Utf8.encode fileHeader = .ok (landed fileHeader) := rfl
    obtain ⟨t', hwrite⟩ := (hrooted.write_true_iff hdown hencode (hample _ _)).mpr ⟨hpassable, hfree⟩
    have hgrows := Artifact.write_grows hwrite
    have hplace : t'.destination path = t.destination path :=
      destination_eq hgrows.workingDirectory path
    rcases Artifact.write_unforced hwrite with ⟨hfalse, _⟩ | ⟨_, _, t₁, x, bytes, w⟩
    · cases hfalse
    · have hbytes : bytes = landed fileHeader := by
        unfold landed
        rw [w.encoded]
      obtain rfl := w.place
      refine ⟨t', fileHeader, ?_, hplace, ?_⟩
      · rw [ensureFile_eq]
        exact bind_of_ok hwrite _
      · rw [hground, ← hbytes]
        refine ⟨hplace ▸ w.leads_after, hplace ▸ w.node?_self, ?_, ?_⟩
        · rw [hbytes]
          exact decode_landed (by decide)
        · unfold Ample
          rw [hgrows.medium, hplace]
          exact hample

/-- Registering starts the file first. -/
theorem register_started {path : Path} {t t' : Tree} (h : ensureFile path t = .ok () t')
    (hagain : ensureFile path t' = .ok () t') (declaration : Text) :
    register path declaration t = register path declaration t' := by
  have hrest : ∀ s, ensureFile path s = .ok () t' → register path declaration s =
      (do if Text.contains (← readText path) (normalize declaration) then return false
          appendText path (Text.concat ["\n", normalize declaration, "\n"])
          return true : Access Bool) t' := by
    intro s hs
    unfold register
    exact bind_of_ok hs _
  rw [hrest t h, hrest t' hagain]

/-- Where the file can be started, registering is the same from the started file. -/
theorem registerAll_started {path : Path} {t t' : Tree} (h : ensureFile path t = .ok () t')
    (hagain : ensureFile path t' = .ok () t') {declarations : List Text} (hne : declarations ≠ []) :
    registerAll path declarations t = registerAll path declarations t' := by
  cases declarations with
  | nil => exact absurd rfl hne
  | cons declaration rest =>
    unfold registerAll
    rw [List.mapM_cons]
    have hfirst := attempt_of_eq (register_started h hagain declaration)
    show EStateM.bind _ _ t = EStateM.bind _ _ t'
    unfold EStateM.bind
    rw [hfirst]

/-- What is read after some registrations is the text after them. -/
theorem reading_after {path : Path} {t t' : Tree} {bytes : Bytes} {text : Text}
    (h : ensureFile path t = .ok () t') (hheld : Held t' path bytes text)
    (declarations : List Text) :
    ∃ results s s', registerAll path declarations t = .ok results s ∧
      reading path s = .ok (universalLines false (textAfter text declarations)) s' := by
  by_cases hne : declarations = []
  · -- Nothing has happened yet, and the file is started now.
    rw [hne]
    exact ⟨[], t, t', rfl, (bind_of_ok h _).trans hheld.readText⟩
  · obtain ⟨added, hadded, hrun⟩ := hheld.registerAll declarations
    have hafter := hheld.textAfter hadded
    rw [registerAll_started h hheld.ensureFile hne]
    exact ⟨_, _, _, hrun, (bind_of_ok hafter.ensureFile _).trans hafter.readText⟩

/-- Registrations that come one after another, with any declarations without carriage returns, add
to the file one line for each that returns true, and nothing else. One returns true exactly if its
line is no part of what is read of the file at that moment; it fails exactly if its line has no
encoding. The same registrations once more return true for none, fail where they failed, and change
nothing. -/
theorem registrations_exact {t : Tree} {path : Path} {declarations : List Text}
    (hrooted : Rooted t) (hdown : Text.ofString ".." ∉ path.segments) (hready : Ready t path)
    (hreturn : ∀ d ∈ declarations, CodePoint.char '\r' ∉ normalize d) :
    ∃ results t', registerAll path declarations t = .ok results t' ∧
      results.length = declarations.length ∧
      (declarations ≠ [] → ∃ added,
        Utf8.encode (listing (entered declarations results)) = .ok added ∧
        t'.content? (t.destination path) =
          some (ground (t.content? (t.destination path)) ++ added)) ∧
      (∀ i declaration result, declarations[i]? = some declaration → results[i]? = some result →
        ∃ before s text s', registerAll path (declarations.take i) t = .ok before s ∧
          reading path s = .ok text s' ∧
          ((∀ c ∈ normalize declaration, Utf8.isSurrogate c = false) →
            ∃ added, result = .ok added ∧ (added = true ↔ ¬ normalize declaration <:+: text)) ∧
          (¬ (∀ c ∈ normalize declaration, Utf8.isSurrogate c = false) →
            ∃ e, result = .error (.unencodable e))) ∧
      registerAll path declarations t' = .ok (results.map (Except.map fun _ => false)) t' := by
  obtain ⟨t₁, text, hstarted, hplace, hheld⟩ := hready.started hrooted hdown
  obtain ⟨added, hadded, hrun⟩ := hheld.registerAll declarations
  -- Without declarations the file is not even started; with one it is, and the run from the started
  -- file is the run from here.
  obtain ⟨t', hresults, htree, hagain⟩ : ∃ t',
      registerAll path declarations t = .ok (answers text declarations) t' ∧
      (declarations ≠ [] → t' = t₁.set (t₁.destination path)
        (.file (ground (t.content? (t.destination path)) ++ added))) ∧
      registerAll path declarations t' =
        .ok ((answers text declarations).map (Except.map fun _ => false)) t' := by
    by_cases hne : declarations = []
    · rw [hne]
      exact ⟨t, rfl, fun h => absurd rfl h, rfl⟩
    · refine ⟨_, (registerAll_started hstarted hheld.ensureFile hne).trans hrun, fun _ => rfl, ?_⟩
      exact (hheld.textAfter hadded).registerAll_again hreturn
  refine ⟨answers text declarations, t', hresults, length_answers .., ?_, ?_, hagain⟩
  · intro hne
    refine ⟨added, hadded, ?_⟩
    rw [htree hne, content?_eq_some_iff, ← hplace, node?_set_self hheld.free]
  · intro i declaration result hdeclaration hresult
    rw [getElem?_answers _ _ _ hdeclaration] at hresult
    cases hresult
    obtain ⟨before, s, s', hbefore, hreading⟩ :=
      reading_after hstarted hheld (declarations.take i)
    exact ⟨before, s, _, s', hbefore, hreading, answer_spec _ _⟩

/-- A file with line ends of other systems, the last one a carriage return, holds the first of four
declarations; the third is the second in another spelling, and the last has no encoding. -/
theorem registrations_exact_mixed :
    let path := Path.ofText "routes/api.php"
    let old := landed "<?php\r\nRoute::get('/a');\r"
    let t : Tree :=
      { workingDirectory := []
        entries := [(["routes"], .directory), (["routes", "api.php"], .file old)] }
    let broken : Text := Text.ofString "Route::get('/" ++ [.surrogate 0]
    let declarations : List Text :=
      ["Route::get('/a')", "Route::get('/b');", " Route::get('/b') ;;", broken]
    ∃ results t' added, registerAll path declarations t = .ok results t' ∧
      Utf8.encode (listing (entered declarations results)) = .ok added ∧
      t'.content? ["routes", "api.php"] = some (old ++ added) ∧
      (∀ result, results[3]? = some result → ∃ e, result = .error (.unencodable e)) ∧
      registerAll path declarations t' = .ok (results.map (Except.map fun _ => false)) t' := by
  intro path old t broken declarations
  have hrooted : Rooted t := rooted_of_entries (by decide +kernel) rfl
  have hheld : Held t path old "<?php\r\nRoute::get('/a');\r" :=
    ⟨address_ok_iff.mpr ⟨rfl, rfl, by decide +kernel, rfl⟩, rfl, decode_landed (by decide +kernel),
      fun _ _ => rfl⟩
  have hreturn : ∀ d ∈ declarations, CodePoint.char '\r' ∉ normalize d := by decide +kernel
  obtain ⟨results, t', hrun, _, hcontent, hanswers, hagain⟩ :=
    registrations_exact hrooted (by decide) (.held hheld) hreturn
  obtain ⟨added, hadded, hfile⟩ := hcontent (List.cons_ne_nil _ _)
  refine ⟨results, t', added, hrun, hadded, hfile, fun result hresult => ?_, hagain⟩
  obtain ⟨_, _, _, _, _, _, _, hfails⟩ := hanswers 3 broken result rfl hresult
  exact hfails (by decide +kernel)

/-- A registration fails where its line has no encoding, though the file lacks the line, and where
no file can be started because the path goes on below a file. -/
theorem registration_fails :
    let broken : Text := Text.ofString "Route::get('/" ++ [.surrogate 0]
    let t : Tree := { workingDirectory := [], entries := [(["User.php"], .file (landed "old"))] }
    (CodePoint.char '\r' ∉ normalize broken ∧
      pathExists (Path.ofText "api.php") t = .ok false t ∧
      (∀ added t', register (Path.ofText "api.php") broken t ≠ .ok added t') ∧
      (after (register (Path.ofText "api.php") broken) t).content? ["api.php"] =
        some (landed fileHeader) ∧
      ¬ normalize broken <:+: fileHeader) ∧
    let below := Path.ofText "User.php/api.php"
    pathExists below t = .ok false t ∧
      ∀ added t', register below "Route::get('/a')" t ≠ .ok added t' := by
  intro broken t
  have hnever : ∀ {path : Path} {declaration : Text},
      fails (register path declaration) (fun _ => true) t = true →
        ∀ added t', register path declaration t ≠ .ok added t' := by
    intro path declaration h added t' hok
    obtain ⟨_, _, herror, _⟩ := error_of_fails h
    rw [hok] at herror
    cases herror
  refine ⟨⟨by decide, rfl, hnever (by decide +kernel), by decide +kernel, ?_⟩, rfl,
    hnever (by decide +kernel)⟩
  rw [← Text.contains_iff, fileHeader_lacks]
  exact Bool.false_ne_true

end Scaffold.Route
