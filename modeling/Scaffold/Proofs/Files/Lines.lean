import Scaffold.Files.Access
import Scaffold.Proofs.Text.Search

/-!
# Lines of files

Reading replaces the ends of lines one code point after another, so what is read of a text that
grows at its end only grows at its end.

The exception is a carriage return at the very end. It reads as a line feed until a line feed is
added behind it, and then both read as one. So the text of a file that ends in a carriage return
does not grow when a line feed is appended first, and what is searched for in the text has to be
found on either side of that place.
-/

namespace Scaffold.Files

theorem universalLines_cons (afterReturn : Bool) (c : CodePoint) (rest : Text) :
    universalLines afterReturn (c :: rest) =
      if c = .char '\r' then .char '\n' :: universalLines true rest
      else if c = .char '\n' ∧ afterReturn then universalLines false rest
      else c :: universalLines false rest := by
  rw [universalLines]

/-- What is read of a text with another after it is what is read of the first, and then something
that is read of the second. -/
theorem universalLines_append (afterReturn : Bool) (s t : Text) :
    ∃ next, universalLines afterReturn (s ++ t) =
      universalLines afterReturn s ++ universalLines next t := by
  induction s generalizing afterReturn with
  | nil =>
    refine ⟨afterReturn, ?_⟩
    rw [universalLines]
    rfl
  | cons c s ih =>
    rw [List.cons_append, universalLines_cons, universalLines_cons]
    split
    next =>
      obtain ⟨next, h⟩ := ih true
      exact ⟨next, congrArg (CodePoint.char '\n' :: ·) h⟩
    next =>
      split
      next => exact ih false
      next =>
        obtain ⟨next, h⟩ := ih false
        exact ⟨next, congrArg (c :: ·) h⟩

/-- Reading makes up no code points but line feeds. -/
theorem mem_of_mem_universalLines {c : CodePoint} {t : Text} : ∀ {afterReturn : Bool},
    c ∈ universalLines afterReturn t → c ∈ t ∨ c = .char '\n' := by
  induction t with
  | nil => exact fun hc => Or.inl hc
  | cons d t ih =>
    intro afterReturn hc
    rw [universalLines_cons] at hc
    split at hc
    next =>
      rcases List.mem_cons.mp hc with rfl | hc
      · exact Or.inr rfl
      · exact (ih hc).imp_left (List.mem_cons_of_mem d)
    next =>
      split at hc
      next => exact (ih hc).imp_left (List.mem_cons_of_mem d)
      next =>
        rcases List.mem_cons.mp hc with rfl | hc
        · exact Or.inl (List.mem_cons_self ..)
        · exact (ih hc).imp_left (List.mem_cons_of_mem d)

/-- A text without carriage returns is read as it is. -/
theorem universalLines_of_not_mem {t : Text} (h : CodePoint.char '\r' ∉ t) :
    universalLines false t = t := by
  induction t with
  | nil => rfl
  | cons c t ih =>
    obtain ⟨hc, ht⟩ := not_or.mp (mt List.mem_cons.mpr h)
    rw [universalLines_cons, if_neg (Ne.symm hc), if_neg (fun hboth => Bool.noConfusion hboth.2),
      ih ht]

/-- The line feed that was written for a carriage return, as long as one in the text may still
belong to it. -/
def pending (afterReturn : Bool) : Text := if afterReturn then [.char '\n'] else []

/-- Reading one code point passes something on and leaves the rest to be read. -/
theorem pending_cons (afterReturn : Bool) (c : CodePoint) :
    ∃ passed next, ∀ s, pending afterReturn ++ universalLines afterReturn (c :: s) =
      passed ++ (pending next ++ universalLines next s) := by
  by_cases hreturn : c = .char '\r'
  · refine ⟨pending afterReturn, true, fun s => ?_⟩
    rw [universalLines_cons, if_pos hreturn]
    rfl
  · by_cases hfeed : c = .char '\n' ∧ afterReturn
    · refine ⟨[.char '\n'], false, fun s => ?_⟩
      rw [universalLines_cons, if_neg hreturn, if_pos hfeed, hfeed.2]
      rfl
    · refine ⟨pending afterReturn ++ [c], false, fun s => ?_⟩
      rw [universalLines_cons, if_neg hreturn, if_neg hfeed, List.append_assoc]
      rfl

/-- What is read of a text, a line feed and more without carriage returns ends with that line feed
and the rest. What comes before is what is read of the text, but for a line feed at its end: a
carriage return and a line feed after it end the same line. -/
theorem universalLines_break {t : Text} (h : CodePoint.char '\r' ∉ t) (s : Text) :
    ∃ before, universalLines false (s ++ .char '\n' :: t) = before ++ .char '\n' :: t ∧
      (universalLines false s = before ∨ universalLines false s = before ++ [.char '\n']) := by
  have hgeneral : ∀ (s : Text) (afterReturn : Bool), ∃ before,
      pending afterReturn ++ universalLines afterReturn (s ++ .char '\n' :: t) =
        before ++ .char '\n' :: t ∧
      (pending afterReturn ++ universalLines afterReturn s = before ∨
        pending afterReturn ++ universalLines afterReturn s = before ++ [.char '\n']) := by
    intro s
    induction s with
    | nil =>
      intro afterReturn
      have ht := congrArg (CodePoint.char '\n' :: ·) (universalLines_of_not_mem h)
      cases afterReturn with
      | true => exact ⟨[], ht, Or.inr rfl⟩
      | false => exact ⟨[], ht, Or.inl rfl⟩
    | cons c s ih =>
      intro afterReturn
      obtain ⟨passed, next, hstep⟩ := pending_cons afterReturn c
      obtain ⟨before, hread, hends⟩ := ih next
      refine ⟨passed ++ before, ?_, ?_⟩
      · rw [List.cons_append, hstep, hread, List.append_assoc]
      · rw [hstep, List.append_assoc]
        exact hends.imp (congrArg (passed ++ ·)) (congrArg (passed ++ ·))
  exact hgeneral s false

/-- A line can be read of a text with another line added exactly if it can be read of the text or
is part of the added line. -/
theorem infix_universalLines_append {needle line : Text} (hneedle : CodePoint.char '\n' ∉ needle)
    (hline : CodePoint.char '\r' ∉ line) (s : Text) :
    needle <:+: universalLines false (s ++ .char '\n' :: (line ++ [.char '\n'])) ↔
      needle <:+: universalLines false s ∨ needle <:+: line := by
  have hreturn : CodePoint.char '\r' ∉ line ++ [.char '\n'] := by
    rw [List.mem_append]
    exact fun h => h.elim hline (by decide)
  have hempty : needle <:+: [] → needle <:+: line := by
    intro h
    rw [List.infix_nil.mp h]
    exact List.nil_infix
  obtain ⟨before, hread, hends⟩ := universalLines_break hreturn s
  have hbefore : needle <:+: universalLines false s ↔ needle <:+: before := by
    rcases hends with heq | heq <;> rw [heq]
    rw [Text.infix_barrier hneedle]
    exact ⟨fun h => h.elim id fun h => (List.infix_nil.mp h) ▸ List.nil_infix, Or.inl⟩
  rw [hread, Text.infix_barrier hneedle, Text.infix_barrier hneedle, hbefore]
  exact or_congr_right ⟨fun h => h.elim id hempty, Or.inl⟩

/-- A line without carriage returns is read as it is, wherever it stands. -/
theorem infix_universalLines {line : Text} (h : CodePoint.char '\r' ∉ line) (afterReturn : Bool)
    (t : Text) : line <:+: universalLines afterReturn (.char '\n' :: (line ++ t)) := by
  obtain ⟨next, hnext⟩ := universalLines_append false line t
  rw [universalLines_of_not_mem h] at hnext
  cases afterReturn with
  | true =>
    refine ⟨[], universalLines next t, ?_⟩
    show _ = universalLines false (line ++ t)
    rw [hnext, List.nil_append]
  | false =>
    refine ⟨[.char '\n'], universalLines next t, ?_⟩
    show _ = CodePoint.char '\n' :: universalLines false (line ++ t)
    rw [hnext]
    rfl

end Scaffold.Files
