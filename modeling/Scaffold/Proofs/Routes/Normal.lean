import Scaffold.Proofs.Text.Search
import Scaffold.Routes

/-!
# Normalised declarations

Normalising takes blanks off a declaration, one run of semicolons off its end, and blanks again
(`core`), and puts one semicolon there. What comes of it is told by how many runs of semicolons
stand at the end of the declaration with nothing but blanks between them (`endRuns`): one of them
is taken off (`endRuns_core`). Where there is one at most, normalising again changes nothing; where
there are more, a semicolon is left before the one that is put at the end, and normalising again
takes off another run (`normalize_canonical_iff`).
-/

namespace Scaffold.Route

open Text (trim trimEnd trimStart)

/-! ## Runs of semicolons -/

/-- The runs of semicolons with which a reversed text begins, blanks aside. A run is counted at
that one of its semicolons which comes last here. -/
def endRunsBack : Text → Nat
  | [] => 0
  | c :: rest =>
    if isTerminator c then endRunsBack rest + (if rest.head? = some (.char ';') then 0 else 1)
    else if c.isBlank then endRunsBack rest
    else 0

/-- How many runs of semicolons stand at the end of a text, with nothing but blanks between and
after them. -/
def endRuns (t : Text) : Nat := endRunsBack t.reverse

/-- The terminator is the semicolon. -/
theorem isTerminator_iff {c : CodePoint} : isTerminator c = true ↔ c = ';' := by
  rw [isTerminator, decide_eq_true_eq]

/-- Blanks are no terminators. -/
theorem isTerminator_of_isBlank {c : CodePoint} (h : c.isBlank = true) :
    isTerminator c = false := by
  rw [← Bool.not_eq_true, isTerminator_iff]
  rintro rfl
  exact absurd h (by decide)

/-- A blank makes no run. -/
theorem endRunsBack_blank {c : CodePoint} (h : c.isBlank = true) (rest : Text) :
    endRunsBack (c :: rest) = endRunsBack rest := by
  rw [endRunsBack, isTerminator_of_isBlank h, h]
  rfl

/-- A semicolon makes one unless it goes on with another. -/
theorem endRunsBack_semicolon (rest : Text) :
    endRunsBack (.char ';' :: rest) =
      endRunsBack rest + (if rest.head? = some (.char ';') then 0 else 1) := by
  rw [endRunsBack, if_pos (isTerminator_iff.mpr rfl)]

/-- A blank at the end makes no difference to the runs. -/
theorem endRuns_blank {c : CodePoint} (h : c.isBlank = true) (t : Text) :
    endRuns (t ++ [c]) = endRuns t := by
  unfold endRuns
  rw [List.reverse_append, List.reverse_singleton, List.singleton_append, endRunsBack_blank h]

/-- A semicolon at the end makes a run unless it goes on with one. -/
theorem endRuns_semicolon (t : Text) :
    endRuns (t ++ [.char ';']) = endRuns t + (if t.getLast? = some (.char ';') then 0 else 1) := by
  unfold endRuns
  rw [List.reverse_append, List.reverse_singleton, List.singleton_append, endRunsBack_semicolon,
    List.head?_reverse]

/-- Blanks and semicolons at the end make no run less. -/
theorem endRuns_le_append (t : Text) {s : Text} (hs : ∀ c ∈ s, c.isBlank = true ∨ c = ';') :
    endRuns t ≤ endRuns (t ++ s) := by
  induction s generalizing t with
  | nil => exact Nat.le_of_eq (congrArg endRuns (List.append_nil t).symm)
  | cons c s ih =>
    obtain ⟨hc, hs⟩ := List.forall_mem_cons.mp hs
    rw [List.append_cons]
    refine Nat.le_trans ?_ (ih (t ++ [c]) hs)
    rcases hc with hblank | rfl
    · exact Nat.le_of_eq (endRuns_blank hblank t).symm
    · rw [endRuns_semicolon]
      exact Nat.le_add_right _ _

/-- Taking off blanks takes off no run. -/
theorem endRuns_trimEnd (t : Text) : endRuns (trimEnd CodePoint.isBlank t) = endRuns t := by
  unfold endRuns trimEnd
  rw [List.reverse_reverse]
  induction t.reverse with
  | nil => rfl
  | cons c rest ih =>
    rw [List.dropWhile_cons]
    split
    next hc => rw [ih, endRunsBack_blank hc]
    next => rfl

/-- Blanks at the start make no difference to the runs. -/
theorem endRuns_trimStart (t : Text) : endRuns (trimStart CodePoint.isBlank t) = endRuns t := by
  -- A blank at the start of the text is at the far end of the reversed text.
  have hfar : ∀ {c : CodePoint} (r : Text), c.isBlank = true →
      endRunsBack (r ++ [c]) = endRunsBack r := by
    intro c r hc
    have hne : some c ≠ some (CodePoint.char ';') := by
      rintro ⟨⟩
      exact absurd hc (by decide)
    induction r with
    | nil => exact endRunsBack_blank hc []
    | cons d rest ih =>
      rw [List.cons_append, endRunsBack, endRunsBack, ih]
      cases rest with
      | nil => simp [hne]
      | cons e rest => rfl
  unfold trimStart
  induction t with
  | nil => rfl
  | cons c t ih =>
    rw [List.dropWhile_cons]
    split
    next hc =>
      rw [ih, endRuns, endRuns, List.reverse_cons, hfar _ hc]
    next => rfl

/-- Without a semicolon at the end there is none to take off. -/
theorem trimEnd_of_no_semicolon {t : Text} (h : t.getLast? ≠ some (.char ';')) :
    trimEnd isTerminator t = t := by
  refine Text.trimEnd_eq_self_iff.mpr fun c hc => ?_
  rw [← Bool.not_eq_true, isTerminator_iff]
  rintro rfl
  exact h hc

/-- Taking off the semicolons at the end takes off one run. -/
theorem endRuns_trimEnd_semicolon {t : Text} (h : t.getLast? = some (.char ';')) :
    endRuns (trimEnd isTerminator t) + 1 = endRuns t := by
  have hback : ∀ r : Text, r.head? = some (.char ';') →
      endRunsBack (r.dropWhile isTerminator) + 1 = endRunsBack r := by
    intro r
    induction r with
    | nil => exact nofun
    | cons c rest ih =>
      intro hc
      obtain rfl : c = ';' := Option.some.inj hc
      rw [List.dropWhile_cons_of_pos (isTerminator_iff.mpr rfl), endRunsBack_semicolon]
      by_cases hrest : rest.head? = some (.char ';')
      · rw [if_pos hrest, ih hrest, Nat.add_zero]
      · -- The run ends here, so there is nothing more to take off.
        have hstays : rest.dropWhile isTerminator = rest := by
          cases rest with
          | nil => rfl
          | cons d rest =>
            refine List.dropWhile_cons_of_neg fun hd => hrest ?_
            rw [isTerminator_iff.mp hd]
            rfl
        rw [if_neg hrest, hstays]
  unfold endRuns trimEnd
  rw [List.reverse_reverse]
  exact hback t.reverse (by rw [List.head?_reverse, h])

/-- Where a text does not end in a blank, there is a run at its end, or there is none at all. -/
theorem endRuns_eq_zero_iff {t : Text} (h : ∀ c, t.getLast? = some c → c.isBlank = false) :
    endRuns t = 0 ↔ t.getLast? ≠ some (.char ';') := by
  constructor
  · intro hzero hlast
    have hone := endRuns_trimEnd_semicolon hlast
    omega
  · intro hlast
    rw [← List.head?_reverse] at h hlast
    unfold endRuns
    cases hr : t.reverse with
    | nil => rfl
    | cons c rest =>
      rw [hr] at h hlast
      have hc : isTerminator c = false := by
        rw [← Bool.not_eq_true, isTerminator_iff]
        rintro rfl
        exact hlast rfl
      rw [endRunsBack, hc, h c rfl]
      rfl

/-! ## What normalising leaves -/

/-- A normalised declaration without the semicolon at its end. -/
def core (declaration : Text) : Text :=
  trimEnd CodePoint.isBlank (trimEnd isTerminator (trim declaration))

theorem normalize_eq (declaration : Text) :
    normalize declaration = core declaration ++ [.char ';'] := rfl

/-- What normalising leaves does not end with a blank. -/
theorem core_getLast? {declaration : Text} {c : CodePoint}
    (h : (core declaration).getLast? = some c) : c.isBlank = false :=
  Text.getLast?_trimEnd h

/-- What normalising leaves does not begin with a blank. -/
theorem core_head? {declaration : Text} {c : CodePoint}
    (h : (core declaration).head? = some c) : c.isBlank = false := by
  obtain ⟨rest, hrest⟩ := (Text.trimEnd_prefix CodePoint.isBlank _).trans
    (Text.trimEnd_prefix isTerminator (trim declaration))
  apply Text.head?_trim (t := declaration)
  rw [← hrest, List.head?_append, show trimEnd _ _ = core declaration from rfl, h]
  rfl

/-- Blanks around a declaration make no difference to the runs. -/
theorem endRuns_trim (t : Text) : endRuns (trim t) = endRuns t := by
  rw [trim, endRuns_trimEnd, endRuns_trimStart]

/-- Of the runs at the end of a declaration one is taken off. -/
theorem endRuns_core (declaration : Text) :
    endRuns (core declaration) = endRuns declaration - 1 := by
  rw [core, endRuns_trimEnd, ← endRuns_trim declaration]
  by_cases hlast : (trim declaration).getLast? = some (.char ';')
  · have hone := endRuns_trimEnd_semicolon hlast
    omega
  · have hzero := (endRuns_eq_zero_iff fun _ hc => Text.getLast?_trim hc).mpr hlast
    rw [trimEnd_of_no_semicolon hlast, hzero]

/-- No semicolon is left before the last exactly if there was one run of them at most. -/
theorem core_getLast?_iff (declaration : Text) :
    (core declaration).getLast? ≠ some (.char ';') ↔ endRuns declaration ≤ 1 := by
  rw [← endRuns_eq_zero_iff fun _ hc => core_getLast? hc, endRuns_core]
  omega

/-! ## Normalising again -/

/-- Normalising again starts from what is left after one run of semicolons was taken off. -/
theorem core_normalize (declaration : Text) :
    core (normalize declaration) =
      trimEnd CodePoint.isBlank (trimEnd isTerminator (core declaration)) := by
  have hfirm : Text.Firm (normalize declaration) := by
    refine ⟨?_, core declaration, .char ';', rfl, by decide⟩
    rw [normalize_eq]
    cases hcore : core declaration with
    | nil => exact ⟨.char ';', [], rfl, by decide⟩
    | cons c rest => exact ⟨c, rest ++ [.char ';'], rfl, core_head? (by rw [hcore]; rfl)⟩
  rw [core, Text.trim_of_firm hfirm, normalize_eq,
    Text.trimEnd_concat (isTerminator_iff.mpr rfl)]

/-- Normalising again leaves the same exactly if there was one run at most. -/
theorem core_normalize_iff (declaration : Text) :
    core (normalize declaration) = core declaration ↔ endRuns declaration ≤ 1 := by
  rw [← core_getLast?_iff, core_normalize]
  constructor
  · intro hsame hlast
    -- A text that ends in a semicolon has become shorter.
    have hone := endRuns_trimEnd_semicolon hlast
    rw [← endRuns_trimEnd (trimEnd isTerminator (core declaration)), hsame] at hone
    omega
  · intro hlast
    rw [trimEnd_of_no_semicolon hlast]
    exact Text.trimEnd_eq_self_iff.mpr fun _ hc => core_getLast? hc

/-! ## Endings -/

/-- A blank at the end makes no difference to what is left. -/
theorem core_blank {c : CodePoint} (h : c.isBlank = true) (declaration : Text) :
    core (declaration ++ [c]) = core declaration := by
  rw [core, Text.trim_concat h, core]

/-- A semicolon at the end makes no difference if it goes on with a run or is the first of all. -/
theorem core_semicolon {declaration : Text}
    (h : declaration.getLast? = some (.char ';') ∨ endRuns declaration = 0) :
    core (declaration ++ [.char ';']) = core declaration := by
  have hsemicolon : (CodePoint.char ';').isBlank = false := by decide
  have htrim : ∀ t : Text, trim (t ++ [.char ';']) =
      trimStart CodePoint.isBlank t ++ [.char ';'] := by
    intro t
    rw [trim, Text.trimStart_around hsemicolon, Text.trimEnd_around hsemicolon]
    rfl
  rw [core, htrim, Text.trimEnd_concat (isTerminator_iff.mpr rfl), core]
  rcases h with hlast | hzero
  · obtain ⟨init, rfl⟩ := List.getLast?_eq_some_iff.mp hlast
    rw [htrim, Text.trimStart_around hsemicolon]
  · -- Nothing but blanks is taken off either way.
    have hstart : (trimStart CodePoint.isBlank declaration).getLast? ≠ some (.char ';') := by
      intro hlast
      have hone := endRuns_trimEnd_semicolon hlast
      rw [endRuns_trimStart] at hone
      omega
    have hends : ∀ c, (trim declaration).getLast? = some c → c.isBlank = false :=
      fun _ hc => Text.getLast?_trim hc
    have hboth := (endRuns_eq_zero_iff hends).mp ((endRuns_trim declaration).trans hzero)
    rw [trimEnd_of_no_semicolon hstart, trimEnd_of_no_semicolon hboth,
      Text.trimEnd_eq_self_iff.mpr hends]
    rfl

/-- Blanks and semicolons at the end make no difference exactly if they make no further run. -/
theorem core_append_iff (declaration : Text) {s : Text}
    (hs : ∀ c ∈ s, c.isBlank = true ∨ c = ';') :
    core (declaration ++ s) = core declaration ↔
      endRuns (declaration ++ s) ≤ max 1 (endRuns declaration) := by
  constructor
  · intro hsame
    have hruns := endRuns_core (declaration ++ s)
    rw [hsame, endRuns_core] at hruns
    omega
  · intro hle
    induction s generalizing declaration with
    | nil => rw [List.append_nil]
    | cons c s ih =>
      obtain ⟨hc, hs'⟩ := List.forall_mem_cons.mp hs
      rw [List.append_cons] at hle ⊢
      -- Putting more at the end makes no fewer runs, so the bound holds of every beginning and the
      -- code points can be put one by one.
      have hmore := endRuns_le_append (declaration ++ [c]) hs'
      have hfirst : core (declaration ++ [c]) = core declaration := by
        rcases hc with hblank | rfl
        · exact core_blank hblank declaration
        · apply core_semicolon
          rw [endRuns_semicolon] at hmore
          by_cases hlast : declaration.getLast? = some (.char ';')
          · exact Or.inl hlast
          · rw [if_neg hlast] at hmore
            exact Or.inr (by omega)
      have hgrown := endRuns_le_append declaration (s := [c]) (by simpa using hc)
      rw [ih (declaration ++ [c]) hs' (by omega), hfirst]

/-- A normalised declaration begins with no blank and ends with a semicolon that no blank precedes.
That no semicolon precedes it either, and that normalising again changes nothing, is so exactly if
there was one run of semicolons at most at the end of the declaration; and blanks and semicolons
that are put there make no difference exactly if they make no further run. -/
theorem normalize_canonical_iff (declaration : Text) :
    (∀ c, (normalize declaration).head? = some c → c.isBlank = false) ∧
    (∃ body, normalize declaration = body ++ [.char ';'] ∧
      (∀ c, body.getLast? = some c → c.isBlank = false) ∧
      (body.getLast? ≠ some (.char ';') ↔ endRuns declaration ≤ 1)) ∧
    (normalize (normalize declaration) = normalize declaration ↔ endRuns declaration ≤ 1) ∧
    ∀ s : Text, (∀ c ∈ s, c.isBlank = true ∨ c = ';') →
      (normalize (declaration ++ s) = normalize declaration ↔
        endRuns (declaration ++ s) ≤ max 1 (endRuns declaration)) := by
  refine ⟨?_, ?_, ?_, ?_⟩
  · intro c hc
    rw [normalize_eq, List.head?_append] at hc
    cases hcore : (core declaration).head? with
    | none =>
      rw [hcore] at hc
      obtain rfl : CodePoint.char ';' = c := Option.some.inj hc
      decide
    | some d =>
      rw [hcore] at hc
      obtain rfl : d = c := Option.some.inj hc
      exact core_head? hcore
  · exact ⟨core declaration, rfl, fun _ hc => core_getLast? hc, core_getLast?_iff declaration⟩
  · rw [normalize_eq (normalize declaration), normalize_eq declaration, List.append_cancel_right_eq,
      ← normalize_eq, core_normalize_iff]
  · intro s hs
    rw [normalize_eq, normalize_eq, List.append_cancel_right_eq, core_append_iff declaration hs]

/-- One run of semicolons may stand at the end in any spelling; a second one is another
declaration. -/
theorem normalize_canonical_iff_ping :
    let route : Text := "Route::get('/ping') ;; "
    normalize route = "Route::get('/ping');" ∧ normalize (normalize route) = normalize route ∧
      normalize (route ++ "\n") = normalize route ∧ normalize (route ++ ";") ≠ normalize route := by
  obtain ⟨_, _, hagain, happend⟩ := normalize_canonical_iff "Route::get('/ping') ;; "
  refine ⟨by decide, hagain.mpr (by decide), (happend "\n" (by decide)).mpr (by decide), ?_⟩
  exact fun h => absurd ((happend ";" (by decide)).mp h) (by decide)

/-- Two semicolons with a blank between them become two with none, and then one. -/
theorem normalize_leaves_semicolon :
    normalize "Route::get('/ping'); ;" = "Route::get('/ping');;" ∧
      normalize (normalize "Route::get('/ping'); ;") = "Route::get('/ping');" ∧
      normalize "Route::get('/ping')" = "Route::get('/ping');" := by
  decide

end Scaffold.Route
