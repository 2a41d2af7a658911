import Scaffold.Naming.Case
import Scaffold.Proofs.Files.Spelling

/-!
# Namespaces by directory

Files are placed by the path that a directory writes, and their classes are declared in the
namespace that it spells. A path is cut at slashes alone and a namespace at backslashes too, so that
the segments of a directory are those of its path, each cut once more (`segments_eq_flatMap`). So the
namespace is a matter of the path (`namespaceOf_ofText`), and a directory inside another goes on with
its namespace exactly if both have segments to name (`namespaceOf_directory`).
-/

namespace Scaffold.Naming

open Files (Path)

/-! ## Segments -/

/-- A slash divides the segments of a directory. -/
theorem segments_slash (a b : Text) : segments (a ++ "/" ++ b) = segments a ++ segments b := by
  have hpieces : Text.pieces isSeparator (a ++ .char '/' :: b) =
      Text.pieces isSeparator a ++ Text.pieces isSeparator b :=
    Text.pieces_append_cons (by decide) a b
  rw [List.append_assoc]
  unfold segments
  rw [show Text.ofString "/" ++ b = .char '/' :: b from rfl, hpieces, List.filter_append]

/-- So the segments of joined texts are those of each. -/
theorem segments_join {ts : List Text} (hne : ts ≠ []) :
    segments (Text.join "/" ts) = ts.flatMap segments := by
  induction ts with
  | nil => exact absurd rfl hne
  | cons t ts ih =>
    cases ts with
    | nil => exact (List.flatMap_singleton ..).symm
    | cons u ts =>
      rw [Text.join_cons_cons, segments_slash, ih (List.cons_ne_nil _ _)]
      rfl

/-- Pieces that name nothing can be left out. -/
theorem flatMap_segments_filter {p : Text → Bool} (h : ∀ t, p t = false → segments t = [])
    (ts : List Text) : (ts.filter p).flatMap segments = ts.flatMap segments := by
  induction ts with
  | nil => rfl
  | cons t ts ih =>
    rw [List.filter_cons, List.flatMap_cons]
    split
    next => rw [List.flatMap_cons, ih]
    next hout => rw [h t (Bool.not_eq_true _ ▸ hout), ih, List.nil_append]

/-- The segments of a directory are those of its path, each cut at backslashes. What a path passes
over has none. -/
theorem segments_eq_flatMap (t : Text) : segments t = (Path.ofText t).segments.flatMap segments := by
  have hempty : ∀ s : Text, (!s.isEmpty) = false → segments s = [] := by
    intro s hs
    obtain rfl : s = [] := by simpa using hs
    rfl
  have hpoint : ∀ s : Text, decide (s ≠ Text.ofString ".") = false → segments s = [] := by
    intro s hs
    obtain rfl : s = Text.ofString "." := by simpa using hs
    decide
  let cut := Text.splitWhere (fun c => c = .char '/') t
  calc segments t
      = segments (Text.join "/" cut) := congrArg segments (Text.join_splitWhere (.char '/') t).symm
    _ = cut.flatMap segments := segments_join (Text.splitWhere_ne_nil _ t)
    _ = (cut.filter (!·.isEmpty)).flatMap segments := (flatMap_segments_filter hempty cut).symm
    _ = (Path.ofText t).segments.flatMap segments := (flatMap_segments_filter hpoint _).symm

/-! ## Namespaces -/

/-- The namespace of a directory is told by its path. -/
theorem namespaceOf_ofText (t : Text) :
    namespaceOf t =
      Text.join "\\" (((Path.ofText t).segments.flatMap segments).map studly) := by
  rw [← segments_eq_flatMap]
  rfl

/-- Directories that write the same path have the same namespace, and the namespace of a directory
inside another is that of the outer one and its own exactly if both have segments. -/
theorem namespaceOf_directory (a b : Text) :
    (Path.ofText a = Path.ofText b → namespaceOf a = namespaceOf b) ∧
      (namespaceOf (a ++ "/" ++ b) = namespaceOf a ++ "\\" ++ namespaceOf b ↔
        segments a ≠ [] ∧ segments b ≠ []) := by
  constructor
  · intro hpath
    rw [namespaceOf_ofText a, namespaceOf_ofText b, hpath]
  · unfold namespaceOf
    rw [segments_slash, List.map_append, Text.join_append_iff (by decide), Ne, Ne,
      List.map_eq_nil_iff, List.map_eq_nil_iff]

/-- Slashes and points that a path passes over make no difference, and a backslash sets segments
apart inside one of a path. -/
theorem namespaceOf_directory_api :
    (Path.ofText "app\\Http//./Api/" = Path.ofText "app\\Http/Api" ∧
      namespaceOf "app\\Http//./Api/" = namespaceOf "app\\Http/Api") ∧
    (segments "./app\\Http/" ≠ [] ∧ segments "/Api" ≠ []) ∧
      namespaceOf ("./app\\Http/" ++ "/" ++ "/Api") = Text.ofString "App\\Http\\Api" := by
  have hpath : Path.ofText "app\\Http//./Api/" = Path.ofText "app\\Http/Api" := by decide
  have hsegments : segments "./app\\Http/" ≠ [] ∧ segments "/Api" ≠ [] := by decide
  refine ⟨⟨hpath, (namespaceOf_directory _ _).1 hpath⟩, hsegments, ?_⟩
  rw [(namespaceOf_directory "./app\\Http/" "/Api").2.mpr hsegments]
  decide

end Scaffold.Naming
