import Scaffold.Pattern.Fill
import Scaffold.Proofs.Program

/-!
# What a filled pattern is

Literals of a pattern stand for themselves (`mapM_literals`), and a field that is only the name of
a value stands for the value (`fillField_named`). What a pattern is filled to follows from its
pieces (`fill_of_pieces`).
-/

namespace Scaffold.Pattern

variable {attributes : Attributes} {values : Ordered Text}
  {fillLayout : Text → Except Fault Text}

/-- A field that is the name of a value, and no number, stands for the value. -/
theorem fillField_named {name value : Text} (hfirst : (name.takeWhile fun c => !endsPart c) = name)
    (hnumber : number? name = .ok none) (hne : name ≠ [])
    (hvalue : Ordered.get? values name = some value) :
    fillField attributes values fillLayout { name } = .ok value := by
  have hvalueOf : valueOf attributes values name = .ok (.text value) := by
    unfold valueOf
    simp only [hfirst, hnumber, hvalue, List.isEmpty_eq_false_iff.mpr hne, List.drop_length]
    show choose attributes value [] = .ok (.text value)
    unfold choose
    rfl
  unfold fillField
  simp only [hvalueOf]
  rfl

/-- Literals are filled to themselves. -/
theorem mapM_literals (t : Text) :
    (t.map Piece.literal).mapM (fillPiece attributes values fillLayout) =
      .ok (t.map fun c => [c]) := by
  induction t with
  | nil => rfl
  | cons c t ih =>
    rw [List.map_cons, List.mapM_cons, ih]
    rfl

/-- Literals before other pieces stand before what those are filled to. -/
theorem mapM_literals_append {t : Text} {pieces : List Piece} {texts : List Text}
    (h : pieces.mapM (fillPiece attributes values fillLayout) = .ok texts) :
    (t.map Piece.literal ++ pieces).mapM (fillPiece attributes values fillLayout) =
      .ok ((t.map fun c => [c]) ++ texts) := by
  rw [List.mapM_append, mapM_literals, h]
  rfl

/-- A field before other pieces stands before what those are filled to. -/
theorem mapM_field {f : Field} {value : Text} {pieces : List Piece} {texts : List Text}
    (hfield : fillField attributes values fillLayout f = .ok value)
    (h : pieces.mapM (fillPiece attributes values fillLayout) = .ok texts) :
    (Piece.field f :: pieces).mapM (fillPiece attributes values fillLayout) =
      .ok (value :: texts) := by
  have hpiece : fillPiece attributes values fillLayout (.field f) = .ok value := hfield
  rw [List.mapM_cons, hpiece, h]
  rfl

/-- A pattern without a fault is filled piece by piece. -/
theorem fill_of_pieces {pattern : Text} {pieces : List Piece} {texts : List Text}
    (hscan : scan pattern = (pieces, none))
    (h : pieces.mapM (fillPiece attributes values (fillNested attributes values 1)) = .ok texts) :
    fill attributes values pattern = .ok (Text.concat texts) := by
  unfold fill maxDepth fillNested
  rw [hscan]
  simp only [h]
  rfl

/-- The texts of literals, one after another, are the text they were taken from. -/
theorem concat_literals (t : Text) (texts : List Text) :
    Text.concat ((t.map fun c => [c]) ++ texts) = t ++ Text.concat texts := by
  unfold Text.concat
  rw [List.flatten_append, ← List.flatMap_def, List.flatMap_singleton']

end Scaffold.Pattern
