import Scaffold.Files.Path
import Scaffold.Proofs.Naming.Words
import Scaffold.Proofs.Text.Search

/-!
# Spelling paths

A path is read from any text, but not every list of segments is read from one: a segment is not
empty, not a point, and holds no slash (`Spelled`). A path with such segments is read back from its
own text (`ofText_toText`), so spelling it once settles how it is spelled.

The anchors make three cases: a text that begins with a slash, with two, or with none. The empty
path from the working directory is spelled as a point, and a point is read as the empty path.
-/

namespace Scaffold.Text

/-- A separator divides the pieces of a text. -/
theorem splitWhere_append_cons {p : CodePoint → Bool} {c : CodePoint} (hc : p c = true)
    (s t : Text) : splitWhere p (s ++ c :: t) = splitWhere p s ++ splitWhere p t := by
  simp only [splitWhere_eq_splitOnP]
  exact List.splitOnP_append_cons s t hc

/-- Pieces on the two sides of a separator are pieces of their side. -/
theorem pieces_append_cons {p : CodePoint → Bool} {c : CodePoint} (hc : p c = true) (s t : Text) :
    pieces p (s ++ c :: t) = pieces p s ++ pieces p t := by
  unfold pieces
  rw [splitWhere_append_cons hc, List.filter_append]

/-- Up to a separator a text is one piece. -/
theorem splitWhere_append {p : CodePoint → Bool} {piece : Text} (h : ∀ c ∈ piece, p c = false)
    {c : CodePoint} (hc : p c = true) (rest : Text) :
    splitWhere p (piece ++ c :: rest) = piece :: splitWhere p rest := by
  rw [splitWhere_append_cons hc, splitWhere_of_none h, List.singleton_append]

/-- Pieces that are joined by a separator are found again. -/
theorem splitWhere_join {p : CodePoint → Bool} {c : CodePoint} (hc : p c = true)
    {ts : List Text} (hne : ts ≠ []) (h : ∀ t ∈ ts, ∀ d ∈ t, p d = false) :
    splitWhere p (join [c] ts) = ts := by
  induction ts with
  | nil => exact absurd rfl hne
  | cons t ts ih =>
    obtain ⟨ht, hts⟩ := List.forall_mem_cons.mp h
    cases ts with
    | nil => exact splitWhere_of_none ht
    | cons u ts =>
      have hjoined : join [c] (t :: u :: ts) = t ++ c :: join [c] (u :: ts) :=
        List.append_assoc ..
      rw [hjoined, splitWhere_append ht hc, ih (List.cons_ne_nil _ _) hts]

/-- A text is its pieces with the separators between them. -/
theorem join_splitWhere (c : CodePoint) (t : Text) :
    join [c] (splitWhere (fun d => d = c) t) = t := by
  rw [join_eq_intercalate, splitWhere_eq_splitOnP]
  exact List.intercalate_splitOn c

end Scaffold.Text

namespace Scaffold.Files.Path

/-- The segments of a path that is read from a text. -/
def Spelled (p : Path) : Prop :=
  ∀ s ∈ p.segments, s ≠ [] ∧ s ≠ Text.ofString "." ∧ CodePoint.char '/' ∉ s

/-- What is read from a text is spelled. -/
theorem spelled_ofText (t : Text) : (ofText t).Spelled := by
  intro s hs
  obtain ⟨hs, hpoint⟩ := List.mem_filter.mp hs
  obtain ⟨hs, hne⟩ := List.mem_filter.mp hs
  have hslash := Text.mem_of_mem_splitWhere hs
  refine ⟨?_, of_decide_eq_true hpoint, fun hmem => ?_⟩
  · rintro rfl
    cases hne
  · exact absurd (hslash _ hmem).2 (by decide)

/-- A slash at the start adds no segment. -/
theorem segmentsOf_slash (t : Text) : segmentsOf (.char '/' :: t) = segmentsOf t := by
  have hpieces : Text.pieces (fun c => c = .char '/') (.char '/' :: t) =
      Text.pieces (fun c => c = .char '/') t :=
    Text.pieces_append_cons (by decide) [] t
  unfold segmentsOf
  rw [hpieces]

variable {p : Path}

/-- The text of the segments, without what says where the path starts. -/
def joined (p : Path) : Text := Text.join (Text.ofString "/") p.segments

theorem segmentsOf_joined (h : p.Spelled) : segmentsOf p.joined = p.segments := by
  by_cases hne : p.segments = []
  · unfold joined
    rw [hne]
    rfl
  · have hslash : ∀ s ∈ p.segments, ∀ c ∈ s, decide (c = CodePoint.char '/') = false := by
      intro s hs c hc
      exact decide_eq_false fun heq => (h s hs).2.2 (heq ▸ hc)
    have hsplit : Text.splitWhere (fun c => c = .char '/') p.joined = p.segments :=
      Text.splitWhere_join (by decide) hne hslash
    unfold segmentsOf Text.pieces
    rw [hsplit, List.filter_eq_self.mpr, List.filter_eq_self.mpr]
    · intro s hs
      simpa using (h s hs).1
    · intro s hs
      exact decide_eq_true (h s (List.mem_filter.mp hs).1).2.1

/-- The text of the segments begins with no slash. -/
theorem takeWhile_joined (h : p.Spelled) :
    p.joined.takeWhile (fun c : CodePoint => c = .char '/') = [] := by
  unfold joined
  cases hsegments : p.segments with
  | nil => rfl
  | cons s segments =>
    obtain ⟨hne, _, hslash⟩ := h s (hsegments ▸ List.mem_cons_self ..)
    obtain ⟨c, more, rfl⟩ := List.exists_cons_of_ne_nil hne
    obtain ⟨tail, htail⟩ := Text.join_cons (Text.ofString "/") (c :: more) segments
    have hc : ¬ c = .char '/' := fun heq => hslash (heq ▸ List.mem_cons_self ..)
    rw [htail, List.cons_append, List.takeWhile_cons, decide_eq_false hc]
    rfl

/-- A path is read back from its own text. -/
theorem ofText_toText (h : p.Spelled) : ofText p.toText = p := by
  have hsegments := segmentsOf_joined h
  have hstart := takeWhile_joined h
  obtain ⟨anchor, segments⟩ := p
  cases anchor with
  | here =>
    cases segments with
    | nil => decide
    | cons s segments =>
      have htext : toText ⟨.here, s :: segments⟩ = joined ⟨.here, s :: segments⟩ := rfl
      rw [htext]
      unfold ofText
      rw [hstart, hsegments]
      rfl
  | root =>
    have htext : toText ⟨.root, segments⟩ = .char '/' :: joined ⟨.root, segments⟩ := rfl
    rw [htext]
    unfold ofText
    rw [segmentsOf_slash, hsegments, List.takeWhile_cons, hstart]
    rfl
  | doubleRoot =>
    have htext : toText ⟨.doubleRoot, segments⟩ =
      .char '/' :: .char '/' :: joined ⟨.doubleRoot, segments⟩ := rfl
    rw [htext]
    unfold ofText
    rw [segmentsOf_slash, segmentsOf_slash, hsegments, List.takeWhile_cons, List.takeWhile_cons,
      hstart]
    rfl

end Scaffold.Files.Path
