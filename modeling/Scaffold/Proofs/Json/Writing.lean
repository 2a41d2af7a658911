import Scaffold.Proofs.Json.Numerals
import Scaffold.Proofs.Json.Quoting
import Scaffold.Proofs.Ordered
import Scaffold.Proofs.Program

/-!
# Reading what was written

A value that can be kept in a file (`Writable`) is read back from the page that it is written on
(`read_page`). The readers and `pageAt` go through a value in the same order, so there is one lemma
for each kind of value, about a page with more text after it; items and fields are read back one
after another. The fuel that a reader has is twice the length of the text, and every bracket, comma
and colon pays for the step that it takes.

`ReadsBack` is the statement of the induction: at any level of indentation, with anything after it
that stands apart, and with enough fuel, the reader gives back the value and what is left. The
induction is on the derivation of `Writable`, which has one rule for each kind of value and counts
the depth down as the reader does.

`Writable` asks three things: whole numbers of bounded size, no key twice, and no deeper nesting
than the grammar takes. Texts may be any texts. That a page can also go through a file is another
matter, and asks for texts that have an encoding (`onPage_of_mem`).
-/

namespace Scaffold.Json

open Program (except_bind_ok_iff)

/-- The values that a file keeps as they are, nested no deeper than a reader goes: texts have an
encoding, whole numbers have no more digits than a reader takes, and an object has every key once.
Binary numbers are left out. -/
inductive Writable : (depth : Nat) → Json → Prop
  | null {depth : Nat} : Writable depth .null
  | bool {depth : Nat} (b : Bool) : Writable depth (.bool b)
  | int {depth : Nat} {n : Int} (h : n.natAbs < 10 ^ maxDigits) : Writable depth (.int n)
  | text {depth : Nat} {t : Text} (h : ∀ c ∈ t, Utf8.isSurrogate c = false) :
    Writable depth (.text t)
  | list {depth : Nat} {items : List Json} (h : ∀ v ∈ items, Writable depth v) :
    Writable (depth + 1) (.list items)
  | object {depth : Nat} {fields : List (Text × Json)} (hkeys : (Ordered.keys fields).Nodup)
    (htexts : ∀ k ∈ Ordered.keys fields, ∀ c ∈ k, Utf8.isSurrogate c = false)
    (h : ∀ f ∈ fields, Writable depth f.2) : Writable (depth + 1) (.object fields)

/-! ## One kind of value after another -/

/-- A value is read back wherever it stands on a page, with enough fuel. -/
structure ReadsBack (g : Grammar) (depth : Nat) (v : Json) : Prop where
  starts : ∀ level, Starts (pageAt level v)
  reads : ∀ {level fuel : Nat} {rest : Text}, Apart rest → 2 * (pageAt level v).length ≤ fuel →
    readValue g depth fuel (pageAt level v ++ rest) = .ok (v, rest)

variable {g : Grammar} {depth : Nat}

/-- A reader has fuel for its first step if there is something to read. -/
theorem exists_succ_of_length {t : Text} {fuel : Nat} (hne : t ≠ []) (h : 2 * t.length ≤ fuel) :
    ∃ less, fuel = less + 1 := by
  have hlength := List.length_pos_iff.mpr hne
  exact ⟨fuel - 1, by omega⟩

/-- Null is read back, as are the truth values. -/
theorem readsBack_null : ReadsBack g depth .null := by
  refine ⟨fun _ => ⟨_, _, rfl, by decide⟩, fun {level fuel rest} _ hfuel => ?_⟩
  obtain ⟨fuel, rfl⟩ := exists_succ_of_length (List.cons_ne_nil _ _) hfuel
  rfl

theorem readsBack_bool (b : Bool) : ReadsBack g depth (.bool b) := by
  cases b
  all_goals
    refine ⟨fun _ => ⟨_, _, rfl, by decide⟩, fun {level fuel rest} _ hfuel => ?_⟩
    obtain ⟨fuel, rfl⟩ := exists_succ_of_length (List.cons_ne_nil _ _) hfuel
    rfl

/-- A whole number of bounded size is read back. -/
theorem readsBack_int {n : Int} (h : n.natAbs < 10 ^ maxDigits) :
    ReadsBack g depth (.int n) := by
  obtain ⟨c, t, hpage, hc⟩ := beginsNumber_ofInt n
  refine ⟨fun _ => ⟨c, t, hpage, hc.startsValue⟩, fun {level fuel rest} hrest hfuel => ?_⟩
  have hwritten : pageAt level (.int n) = Text.ofInt n := rfl
  rw [hwritten] at hfuel ⊢
  obtain ⟨fuel, rfl⟩ := exists_succ_of_length (hpage ▸ List.cons_ne_nil _ _) hfuel
  rw [← readNumber_ofInt h hrest, hpage, List.cons_append]
  exact readValue_number g depth fuel (hc.append rest)

/-- Every text is read back, surrogates included. -/
theorem readsBack_text (t : Text) : ReadsBack g depth (.text t) := by
  have hpage : ∀ level, pageAt level (.text t) =
      .char '"' :: (t.flatMap plainPoint ++ [.char '"']) := fun _ => plainQuoted_eq t
  refine ⟨fun level => ⟨_, _, hpage level, by decide⟩, fun {level fuel rest} _ hfuel => ?_⟩
  rw [hpage] at hfuel ⊢
  obtain ⟨fuel, rfl⟩ := exists_succ_of_length (List.cons_ne_nil _ _) hfuel
  rw [List.cons_append, List.append_assoc, readValue]
  show (readInside g _ 0 (t.flatMap plainPoint ++ .char '"' :: rest) >>= _) = _
  rw [readInside_plain]
  rfl

/-! ## Items and fields -/

/-- What stands between two items of a level. -/
def separator (level : Nat) : Text := Text.ofString "," ++ newLine level

/-- A reader of several parts takes them back from a page on which they stand one to a line, if it
takes each of them, before the closing bracket and before a comma and more parts. -/
theorem parts_page {α : Type} {readParts : Nat → Text → Except Failure (List α × Text)}
    {write : α → Text} {close : CodePoint} {level above : Nat} {after : Text} {parts : List α}
    (starts : ∀ a ∈ parts, Starts (write a))
    (last : ∀ a ∈ parts, ∀ fuel, 2 * (write a).length ≤ fuel →
      readParts (fuel + 1) (write a ++ (newLine above ++ close :: after)) = .ok ([a], after))
    (more : ∀ a ∈ parts, ∀ fuel tail others, 2 * (write a).length ≤ fuel →
      readParts fuel (skipSpace tail) = .ok (others, after) →
      readParts (fuel + 1) (write a ++ .char ',' :: tail) = .ok (a :: others, after))
    (hne : parts ≠ []) {fuel : Nat}
    (hfuel : 2 * (Text.join (separator level) (parts.map write)).length + 1 ≤ fuel) :
    readParts fuel (Text.join (separator level) (parts.map write) ++
      (newLine above ++ close :: after)) = .ok (parts, after) := by
  -- The induction is on the parts that are left; each takes one step of the fuel, and the comma
  -- before the next one pays for it.
  induction parts generalizing fuel with
  | nil => exact absurd rfl hne
  | cons a parts ih =>
    obtain ⟨_, hstarts⟩ := List.forall_mem_cons.mp starts
    obtain ⟨hlast, hlasts⟩ := List.forall_mem_cons.mp last
    obtain ⟨hmore, hmores⟩ := List.forall_mem_cons.mp more
    obtain ⟨fuel, rfl⟩ : ∃ less, fuel = less + 1 := ⟨fuel - 1, by omega⟩
    cases parts with
    | nil =>
      have hjoined : Text.join (separator level) ([a].map write) = write a := rfl
      rw [hjoined] at hfuel ⊢
      exact hlast fuel (by omega)
    | cons b parts =>
      have hjoined : Text.join (separator level) ((a :: b :: parts).map write) =
          write a ++ separator level ++ Text.join (separator level) ((b :: parts).map write) := rfl
      have hseparator : ∀ rest, separator level ++ rest = .char ',' :: (newLine level ++ rest) :=
        fun _ => rfl
      have hcomma : 1 ≤ (separator level).length := Nat.le_add_left ..
      rw [hjoined] at hfuel ⊢
      rw [List.append_assoc, List.append_assoc, hseparator]
      rw [List.length_append, List.length_append] at hfuel
      apply hmore fuel _ _ (by omega)
      -- The next part begins right after the line break.
      have hnext : Starts (Text.join (separator level) ((b :: parts).map write)) :=
        Starts.join (List.cons_ne_nil _ _) (List.forall_mem_map.mpr hstarts) _
      rw [skipSpace_newLine, (hnext.append _).skipSpace]
      exact ih hstarts hlasts hmores (List.cons_ne_nil _ _) (by omega)

/-- The last item is followed by a bracket. -/
theorem readItems_last {fuel : Nat} {t rest after : Text} {v : Json}
    (hv : readValue g depth fuel t = .ok (v, rest)) (hclose : skipSpace rest = .char ']' :: after) :
    readItems g depth (fuel + 1) t = .ok ([v], after) := by
  unfold readItems
  refine except_bind_ok_iff.mpr ⟨(v, rest), hv, ?_⟩
  dsimp only
  rw [hclose]
  rfl

/-- An item that is followed by a comma has another after it. -/
theorem readItems_more {fuel : Nat} {t rest more after : Text} {v : Json} {vs : List Json}
    (hv : readValue g depth fuel t = .ok (v, rest)) (hcomma : skipSpace rest = .char ',' :: more)
    (hvs : readItems g depth fuel (skipSpace more) = .ok (vs, after)) :
    readItems g depth (fuel + 1) t = .ok (v :: vs, after) := by
  unfold readItems
  refine except_bind_ok_iff.mpr ⟨(v, rest), hv, ?_⟩
  dsimp only
  rw [hcomma]
  exact except_bind_ok_iff.mpr ⟨(vs, after), hvs, rfl⟩

theorem pageItems_eq (level : Nat) (items : List Json) :
    pageItems level items = items.map (pageAt level) := by
  induction items with
  | nil => rfl
  | cons v items ih => rw [pageItems, ih, List.map_cons]

/-- The items of a list on a page are read back one after another. -/
theorem readItems_page {items : List Json} (h : ∀ v ∈ items, ReadsBack g depth v)
    (hne : items ≠ []) {level : Nat} (above : Nat) (after : Text) {fuel : Nat}
    (hfuel : 2 * (Text.join (separator level) (pageItems level items)).length + 1 ≤ fuel) :
    readItems g depth fuel (Text.join (separator level) (pageItems level items) ++
      (newLine above ++ .char ']' :: after)) = .ok (items, after) := by
  rw [pageItems_eq] at hfuel ⊢
  refine parts_page (fun v hv => (h v hv).starts level) ?_ ?_ hne hfuel
  · intro v hv fuel hfuel
    refine readItems_last ((h v hv).reads (apart_newLine above _) hfuel) ?_
    rw [skipSpace_newLine]
    rfl
  · intro v hv fuel tail others hfuel hothers
    exact readItems_more ((h v hv).reads (apart_comma tail) hfuel) rfl hothers

/-- The last field is followed by a brace. -/
theorem readFields_last {fuel : Nat} {inner named value rest after key : Text} {v : Json}
    (hkey : readInside g (inner.length + 1) 0 inner = .ok (key, named))
    (hcolon : skipSpace named = .char ':' :: value)
    (hv : readValue g depth fuel (skipSpace value) = .ok (v, rest))
    (hclose : skipSpace rest = .char '\x7d' :: after) :
    readFields g depth (fuel + 1) (.char '"' :: inner) = .ok ([(key, v)], after) := by
  unfold readFields
  refine except_bind_ok_iff.mpr ⟨(key, named), hkey, ?_⟩
  dsimp only
  rw [hcolon]
  refine except_bind_ok_iff.mpr ⟨(v, rest), hv, ?_⟩
  dsimp only
  rw [hclose]
  rfl

/-- A field that is followed by a comma has another after it. -/
theorem readFields_more {fuel : Nat} {inner named value rest more after key : Text} {v : Json}
    {fields : List (Text × Json)}
    (hkey : readInside g (inner.length + 1) 0 inner = .ok (key, named))
    (hcolon : skipSpace named = .char ':' :: value)
    (hv : readValue g depth fuel (skipSpace value) = .ok (v, rest))
    (hcomma : skipSpace rest = .char ',' :: more)
    (hfields : readFields g depth fuel (skipSpace more) = .ok (fields, after)) :
    readFields g depth (fuel + 1) (.char '"' :: inner) = .ok ((key, v) :: fields, after) := by
  unfold readFields
  refine except_bind_ok_iff.mpr ⟨(key, named), hkey, ?_⟩
  dsimp only
  rw [hcolon]
  refine except_bind_ok_iff.mpr ⟨(v, rest), hv, ?_⟩
  dsimp only
  rw [hcomma]
  exact except_bind_ok_iff.mpr ⟨(fields, after), hfields, rfl⟩

/-- How a field stands on a page. -/
def fieldAt (level : Nat) (f : Text × Json) : Text :=
  plainQuoted f.1 ++ Text.ofString ": " ++ pageAt level f.2

/-- A field begins with its key in quotes, and its value stands after the colon. -/
theorem fieldAt_append (level : Nat) (f : Text × Json) (rest : Text) :
    fieldAt level f ++ rest = .char '"' :: (f.1.flatMap plainPoint ++
      .char '"' :: .char ':' :: .char ' ' :: (pageAt level f.2 ++ rest)) := by
  unfold fieldAt
  rw [plainQuoted_eq]
  simp [Text.ofString]

theorem starts_fieldAt (level : Nat) (f : Text × Json) : Starts (fieldAt level f) :=
  ⟨_, _, List.append_nil (fieldAt level f) ▸ fieldAt_append level f [], by decide⟩

theorem length_fieldAt (level : Nat) (f : Text × Json) :
    (pageAt level f.2).length ≤ (fieldAt level f).length := by
  unfold fieldAt
  rw [List.length_append]
  omega

theorem pageFields_eq (level : Nat) (fields : List (Text × Json)) :
    pageFields level fields = fields.map (fieldAt level) := by
  induction fields with
  | nil => rfl
  | cons f fields ih => rw [pageFields, ih, List.map_cons]; rfl

/-- The fields of an object on a page are read back one after another. -/
theorem readFields_page {fields : List (Text × Json)}
    (h : ∀ f ∈ fields, ReadsBack g depth f.2) (hne : fields ≠ []) {level : Nat} (above : Nat)
    (after : Text) {fuel : Nat}
    (hfuel : 2 * (Text.join (separator level) (pageFields level fields)).length + 1 ≤ fuel) :
    readFields g depth fuel (Text.join (separator level) (pageFields level fields) ++
      (newLine above ++ .char '\x7d' :: after)) = .ok (fields, after) := by
  have hvalue : ∀ f ∈ fields, ∀ {fuel rest}, Apart rest → 2 * (fieldAt level f).length ≤ fuel →
      readValue g depth fuel (skipSpace (.char ' ' :: (pageAt level f.2 ++ rest))) =
        .ok (f.2, rest) := by
    intro f hf fuel rest hrest hfuel
    have hlength := length_fieldAt level f
    have hskip : skipSpace (.char ' ' :: (pageAt level f.2 ++ rest)) = pageAt level f.2 ++ rest :=
      (((h f hf).starts level).append rest).skipSpace
    rw [hskip]
    exact (h f hf).reads hrest (by omega)
  rw [pageFields_eq] at hfuel ⊢
  refine parts_page ?_ ?_ ?_ hne hfuel
  · exact fun f _ => starts_fieldAt level f
  · intro f hf fuel hfuel
    rw [fieldAt_append]
    refine readFields_last (readInside_plain g _ f.1 _) rfl
      (hvalue f hf (apart_newLine above _) hfuel) ?_
    rw [skipSpace_newLine]
    rfl
  · intro f hf fuel tail others hfuel hothers
    rw [fieldAt_append]
    exact readFields_more (readInside_plain g _ f.1 _) rfl (hvalue f hf (apart_comma tail) hfuel)
      rfl hothers

/-! ## Lists and objects -/

/-- A bracket begins a list, unless the next one closes it. -/
theorem readValue_list {fuel : Nat} {inner after : Text} {items : List Json}
    (hfirst : ∀ rest, skipSpace inner ≠ .char ']' :: rest)
    (hitems : readItems g depth fuel (skipSpace inner) = .ok (items, after)) :
    readValue g (depth + 1) (fuel + 1) (.char '[' :: inner) = .ok (.list items, after) := by
  rw [readValue]
  dsimp only
  split
  next rest heq => exact absurd heq (hfirst rest)
  next => exact except_bind_ok_iff.mpr ⟨(items, after), hitems, rfl⟩

/-- A brace begins an object, likewise. -/
theorem readValue_object {fuel : Nat} {inner after : Text} {fields : List (Text × Json)}
    (hfirst : ∀ rest, skipSpace inner ≠ .char '\x7d' :: rest)
    (hfields : readFields g depth fuel (skipSpace inner) = .ok (fields, after)) :
    readValue g (depth + 1) (fuel + 1) (.char '\x7b' :: inner) =
      .ok (.object (Ordered.ofEntries fields), after) := by
  rw [readValue]
  dsimp only
  split
  next rest heq => exact absurd heq (hfirst rest)
  next => exact except_bind_ok_iff.mpr ⟨(fields, after), hfields, rfl⟩

/-- What is written as parts between brackets is read back, if a reader that finds the first part
takes all of them. -/
theorem readsBack_block {v : Json} (parts : Nat → List Text) {opening close : CodePoint}
    (hpage : ∀ level, pageAt level v = block level [opening] [close] (parts (level + 1)))
    (hopening : startsValue opening = true) (hne : ∀ level, parts level ≠ [])
    (hparts : ∀ level, ∀ t ∈ parts level, Starts t)
    (hread : ∀ {level above fuel : Nat} {inner rest : Text}, Starts (skipSpace inner) →
      skipSpace inner =
        Text.join (separator level) (parts level) ++ (newLine above ++ close :: rest) →
      2 * (Text.join (separator level) (parts level)).length + 1 ≤ fuel →
      readValue g depth (fuel + 1) (opening :: inner) = .ok (v, rest)) : ReadsBack g depth v := by
  have hblock : ∀ level, pageAt level v = opening :: (newLine (level + 1) ++
      (Text.join (separator (level + 1)) (parts (level + 1)) ++ (newLine level ++ [close]))) := by
    intro level
    rw [hpage]
    unfold block
    rw [if_neg (fun hempty => hne _ (List.isEmpty_iff.mp hempty))]
    simp [Text.concat, separator]
  refine ⟨fun level => ⟨opening, _, hblock level, hopening⟩, fun {level fuel rest} _ hfuel => ?_⟩
  rw [hblock] at hfuel ⊢
  -- The two brackets are two steps more than the parts need: one leads inside, one is to spare.
  simp only [List.length_cons, List.length_append] at hfuel
  obtain ⟨fuel, rfl⟩ : ∃ less, fuel = less + 1 := ⟨fuel - 1, by omega⟩
  have hstarts : Starts (Text.join (separator (level + 1)) (parts (level + 1)) ++
      (newLine level ++ close :: rest)) :=
    (Starts.join (hne (level + 1)) (hparts (level + 1)) _).append _
  have hskip : skipSpace (newLine (level + 1) ++
      (Text.join (separator (level + 1)) (parts (level + 1)) ++ (newLine level ++ [close])) ++
        rest) =
      Text.join (separator (level + 1)) (parts (level + 1)) ++
        (newLine level ++ close :: rest) := by
    simp only [List.append_assoc, List.cons_append, List.nil_append]
    rw [skipSpace_newLine, hstarts.skipSpace]
  rw [List.cons_append]
  exact hread (hskip ▸ hstarts) hskip (by omega)

/-- A list is read back if its items are, one level further down. -/
theorem readsBack_list {items : List Json} (h : ∀ v ∈ items, ReadsBack g depth v) :
    ReadsBack g (depth + 1) (.list items) := by
  by_cases hne : items = []
  · subst hne
    refine ⟨fun _ => ⟨_, _, rfl, by decide⟩, fun {level fuel rest} _ hfuel => ?_⟩
    obtain ⟨fuel, rfl⟩ := exists_succ_of_length (List.cons_ne_nil _ _) hfuel
    rfl
  · refine readsBack_block (fun level => pageItems level items) (fun _ => rfl) (by decide)
      ?_ ?_ ?_
    · intro level
      rw [pageItems_eq]
      exact mt List.map_eq_nil_iff.mp hne
    · intro level
      rw [pageItems_eq]
      exact List.forall_mem_map.mpr fun v hv => (h v hv).starts level
    · intro level above fuel inner rest hstarts hskip hfuel
      apply readValue_list
      · exact hstarts.ne_cons (by decide)
      · rw [hskip]
        exact readItems_page h hne above rest hfuel

/-- An object is read back if its values are, one level further down, and no key is there twice. -/
theorem readsBack_object {fields : List (Text × Json)} (hkeys : (Ordered.keys fields).Nodup)
    (h : ∀ f ∈ fields, ReadsBack g depth f.2) : ReadsBack g (depth + 1) (.object fields) := by
  by_cases hne : fields = []
  · subst hne
    refine ⟨fun _ => ⟨_, _, rfl, by decide⟩, fun {level fuel rest} _ hfuel => ?_⟩
    obtain ⟨fuel, rfl⟩ := exists_succ_of_length (List.cons_ne_nil _ _) hfuel
    rfl
  · refine readsBack_block (fun level => pageFields level fields) (fun _ => rfl) (by decide)
      ?_ ?_ ?_
    · intro level
      rw [pageFields_eq]
      exact mt List.map_eq_nil_iff.mp hne
    · intro level
      rw [pageFields_eq]
      exact List.forall_mem_map.mpr fun f _ => starts_fieldAt level f
    · intro level above fuel inner rest hstarts hskip hfuel
      rw [← Ordered.ofEntries_of_nodup hkeys]
      apply readValue_object
      · exact hstarts.ne_cons (by decide)
      · rw [hskip]
        exact readFields_page h hne above rest hfuel

/-! ## Whole values -/

/-- Whatever can be kept is read back. -/
theorem Writable.readsBack {v : Json} (h : Writable depth v) : ReadsBack g depth v := by
  induction h with
  | null => exact readsBack_null
  | bool b => exact readsBack_bool b
  | int h => exact readsBack_int h
  | text _ => exact readsBack_text _
  | list _ ih => exact readsBack_list ih
  | object hkeys _ _ ih => exact readsBack_object hkeys ih

/-- A value is read back from its page. -/
theorem read_page {v : Json} (h : Writable g.maxDepth v) : read g v.page = .ok v := by
  have hstarts : Starts v.page := (h.readsBack (g := g)).starts 0
  have hread : readValue g g.maxDepth (2 * v.page.length + 2) (v.page ++ []) = .ok (v, []) :=
    h.readsBack.reads nofun (Nat.le_add_right ..)
  rw [List.append_nil] at hread
  unfold read
  split
  next rest heq => exact absurd heq (hstarts.ne_cons (by decide) rest)
  next =>
    rw [hstarts.skipSpace, hread]
    rfl

/-! ## What is on a page -/

/-- What a page may hold: line feeds, and nothing else that cannot be seen. -/
def OnPage (c : CodePoint) : Prop := c = .char '\n' ∨ Visible c

theorem onPage_newLine {level : Nat} {c : CodePoint} (hc : c ∈ newLine level) : OnPage c := by
  rcases List.mem_cons.mp hc with rfl | hc
  · exact Or.inl rfl
  · rw [List.eq_of_mem_replicate hc]
    exact Or.inr (by decide)

/-- A block between brackets holds what its items hold, and line breaks. -/
theorem onPage_block {level : Nat} {opening close : CodePoint} {items : List Text}
    (hopening : Visible opening) (hclose : Visible close)
    (hitems : ∀ t ∈ items, ∀ c ∈ t, OnPage c) {c : CodePoint}
    (hc : c ∈ block level [opening] [close] items) : OnPage c := by
  unfold block at hc
  split at hc
  next =>
    rcases List.mem_append.mp hc with hc | hc
    · exact Or.inr (List.mem_singleton.mp hc ▸ hopening)
    · exact Or.inr (List.mem_singleton.mp hc ▸ hclose)
  next =>
    simp only [Text.concat, List.flatten_cons, List.flatten_nil, List.append_nil, List.mem_append,
      List.mem_singleton] at hc
    rcases hc with rfl | hc | hc | hc | rfl
    · exact Or.inr hopening
    · exact onPage_newLine hc
    · rcases Text.mem_of_mem_join hc with hc | ⟨t, ht, hc⟩
      · rcases List.mem_append.mp hc with hc | hc
        · rw [List.mem_singleton.mp hc]
          exact Or.inr (by decide)
        · exact onPage_newLine hc
      · exact hitems t ht c hc
    · exact onPage_newLine hc
    · exact Or.inr hclose

theorem visible_ofInt {n : Int} {c : CodePoint} (hc : c ∈ Text.ofInt n) : Visible c := by
  have hdigit : ∀ c ∈ Text.ofNat n.natAbs, Visible c := by
    intro c hc
    have hdigit := Text.isDigit_of_mem_ofNat hc
    unfold CodePoint.isDigit at hdigit
    simp only [Bool.and_eq_true, decide_eq_true_eq] at hdigit
    exact visible_of_code (by omega) (by omega)
  unfold Text.ofInt at hc
  split at hc
  · rcases List.mem_cons.mp hc with rfl | hc
    · decide
    · exact hdigit c hc
  · exact hdigit c hc

/-- There are no control characters on a page but line feeds. -/
theorem onPage_of_mem {v : Json} (h : Writable depth v) {level : Nat} {c : CodePoint}
    (hc : c ∈ pageAt level v) : OnPage c := by
  induction h generalizing level c with
  | null =>
    have hall : ∀ c ∈ Text.ofString "null", Visible c := by decide
    exact Or.inr (hall c hc)
  | bool b =>
    have hall : ∀ b, ∀ c ∈ pageAt 0 (.bool b), Visible c := by decide
    exact Or.inr (hall b c hc)
  | int _ => exact Or.inr (visible_ofInt hc)
  | text h => exact Or.inr (visible_of_mem_plainQuoted h hc)
  | list _ ih =>
    refine onPage_block (by decide) (by decide) ?_ hc
    rw [pageItems_eq]
    exact List.forall_mem_map.mpr fun v hv c hc => ih v hv hc
  | @object _ fields _ htexts _ ih =>
    refine onPage_block (by decide) (by decide) ?_ hc
    rw [pageFields_eq]
    refine List.forall_mem_map.mpr fun f hf c hc => ?_
    unfold fieldAt at hc
    rcases List.mem_append.mp hc with hc | hc
    · rcases List.mem_append.mp hc with hc | hc
      · have hkey : f.1 ∈ Ordered.keys fields := List.mem_map.mpr ⟨f, hf, rfl⟩
        exact Or.inr (visible_of_mem_plainQuoted (htexts f.1 hkey) hc)
      · have hall : ∀ c ∈ Text.ofString ": ", Visible c := by decide
        exact Or.inr (hall c hc)
    · exact ih f hf hc

/-- A page holds neither surrogates nor carriage returns. -/
theorem mem_page {v : Json} (h : Writable depth v) {c : CodePoint} (hc : c ∈ v.page) :
    Utf8.isSurrogate c = false ∧ c ≠ .char '\r' := by
  rcases onPage_of_mem h hc with rfl | ⟨hencodable, hvisible⟩
  · decide
  · refine ⟨hencodable, ?_⟩
    rintro rfl
    exact absurd hvisible (by decide)

end Scaffold.Json
