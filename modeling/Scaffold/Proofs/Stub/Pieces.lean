import Scaffold.Proofs.Stub.Substitution

/-!
# Filling a template piece by piece

Replacing all tokens one after another works on a template from the left: text in which no token can
begin stays as it is (`substitute_inert`), and a token is replaced by its value if that is inert
(`substitute_token`), whatever follows and whatever the values of other tokens hold. So a template
that is given as pieces is filled piece by piece (`substitute_pieces`).
-/

namespace Scaffold.Stub

/-! ## One replacement -/

section

variable {values : Ordered Text} {t : Text}

/-- An opening brace ends no inert text and follows none in it. -/
theorem Inert.of_free (h : openBrace ∉ t) : Inert t where
  inside := fun hinside => h (hinside.subset (List.mem_cons_self ..))
  last := fun hlast => h (List.mem_of_getLast? hlast)

/-- In inert text there is nothing to replace, whatever follows it. -/
theorem fillFrom_inert (hkeys : AreTokens (Ordered.keys values)) (h : Inert t) (rest : Text) :
    fillFrom values 0 (t ++ rest) = t ++ fillFrom values 0 rest := by
  induction t with
  | nil => rfl
  | cons c t ih =>
    obtain ⟨hinside, hlast⟩ := h
    rw [List.cons_append, fillFrom_point hkeys, List.cons_append]
    · cases t with
      | nil => rfl
      | cons d t =>
        rw [List.getLast?_cons_cons] at hlast
        rw [ih ⟨fun hin => hinside (hin.trans (List.suffix_cons ..).isInfix), hlast⟩]
    · rintro rfl
      cases t with
      | nil => exact absurd rfl hlast
      | cons d t =>
        rintro ⟨⟩
        exact hinside ⟨[], t, rfl⟩

/-- Replacing one token everywhere is one pass with that token alone. -/
theorem replace_eq_fillFrom {r : Text × Text} (hkey : AreTokens (Ordered.keys [r])) (t : Text) :
    Text.replace t r.1 r.2 = fillFrom [r] 0 t := by
  rw [← replaceFrom_eq_fillFrom, (hkey r.1 (List.mem_cons_self ..)).2]
  rfl

end

/-! ## All replacements -/

section

variable {values : Ordered Text} {t : Text}

theorem substitute_cons (r : Text × Text) (values : Ordered Text) (t : Text) :
    substitute t (r :: values) = substitute (Text.replace t r.1 r.2) values := rfl

/-- Of nothing comes nothing. -/
theorem substitute_nil (hkeys : AreTokens (Ordered.keys values)) : substitute [] values = [] := by
  induction values with
  | nil => rfl
  | cons r values ih =>
    obtain ⟨hkey, hkeys⟩ := List.forall_mem_cons.mp hkeys
    rw [substitute_cons, replace_eq_fillFrom (List.forall_mem_singleton.mpr hkey)]
    exact ih hkeys

/-- Inert text stays, and what follows it is filled as if it stood alone. -/
theorem substitute_inert (hkeys : AreTokens (Ordered.keys values)) (h : Inert t) (rest : Text) :
    substitute (t ++ rest) values = t ++ substitute rest values := by
  induction values generalizing rest with
  | nil => rfl
  | cons r values ih =>
    obtain ⟨hkey, hkeys⟩ := List.forall_mem_cons.mp hkeys
    have hone : AreTokens (Ordered.keys [r]) := List.forall_mem_singleton.mpr hkey
    rw [substitute_cons, substitute_cons, replace_eq_fillFrom hone, replace_eq_fillFrom hone,
      fillFrom_inert hone h, ih hkeys]

/-- A token with an inert value is replaced by it, and what follows the token is filled as if it
stood alone. -/
theorem substitute_token (hkeys : AreTokens (Ordered.keys values)) {name value : Text}
    (hname : IsName name) (hvalue : Ordered.get? values (tokenOf name) = some value)
    (h : Inert value) (rest : Text) :
    substitute (tokenOf name ++ rest) values = value ++ substitute rest values := by
  induction values generalizing rest with
  | nil => cases hvalue
  | cons r values ih =>
    obtain ⟨key, first⟩ := r
    obtain ⟨hkey, hkeys⟩ := List.forall_mem_cons.mp hkeys
    have hone : AreTokens (Ordered.keys [(key, first)]) := List.forall_mem_singleton.mpr hkey
    rw [substitute_cons, substitute_cons, replace_eq_fillFrom hone, replace_eq_fillFrom hone,
      fillFrom_token hone hname, Part.filled, Ordered.get?]
    rw [Ordered.get?] at hvalue
    by_cases heq : key = tokenOf name
    · rw [if_pos heq, Option.some.injEq] at hvalue
      subst hvalue
      rw [if_pos heq, Option.getD_some, substitute_inert hkeys h]
    · rw [if_neg heq] at hvalue ⊢
      rw [Ordered.get?_nil, Option.getD_none, ih hkeys hvalue]

end

/-! ## Pieces -/

/-- A piece of a template: inert text, or a token with an inert value. -/
inductive Piece where
  | text (t : Text)
  | token (name value : Text)

namespace Piece

/-- A piece as it stands in the template. -/
def written : Piece → Text
  | text t => t
  | token name _ => tokenOf name

/-- What a piece is filled with. -/
def filled : Piece → Text
  | text t => t
  | token _ value => value

/-- The piece is filled with its own text or with the value of its token. -/
inductive Sound (values : Ordered Text) : Piece → Prop
  | text {t : Text} (h : Inert t) : Sound values (text t)
  | token {name value : Text} (hname : IsName name)
    (hvalue : Ordered.get? values (tokenOf name) = some value) (h : Inert value) :
    Sound values (token name value)

end Piece

/-- A template is filled piece by piece. -/
theorem substitute_pieces {values : Ordered Text} (hkeys : AreTokens (Ordered.keys values))
    {pieces : List Piece} (h : ∀ piece ∈ pieces, piece.Sound values) :
    substitute (pieces.flatMap Piece.written) values = pieces.flatMap Piece.filled := by
  induction pieces with
  | nil => exact substitute_nil hkeys
  | cons piece pieces ih =>
    obtain ⟨hpiece, h⟩ := List.forall_mem_cons.mp h
    rw [List.flatMap_cons, List.flatMap_cons, ← ih h]
    cases hpiece with
    | text ht => exact substitute_inert hkeys ht _
    | token hname hvalue ht => exact substitute_token hkeys hname hvalue ht _

end Scaffold.Stub
