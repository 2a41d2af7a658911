import Mathlib.Data.List.Basic
import Scaffold.Proofs.Naming.Words
import Scaffold.Proofs.Pattern.Filling
import Scaffold.Proofs.Routes.Listing
import Scaffold.Settings.Basic

/-!
# The default route declaration

By the default template the route of a table is declared by one line with the name of the table in
quotes (`fill_default`). Names in ASCII have no quotes and no brackets, so the line tells the table:
no line is a part of the line of another table, however the names overlap (`infix_apiRoute_iff`).
-/

namespace Scaffold.Route

/-- The default declaration for a table and a class. -/
def apiRoute (table className : Text) : Text :=
  Text.ofString "Route::apiResource('" ++ (table ++ (Text.ofString "', '" ++
    (className ++ Text.ofString "Controller');")))

/-- The default template is filled to the declaration. -/
theorem fill_default (attributes : Pattern.Attributes) (table className : Text) :
    Pattern.fill attributes [("table", table), ("class_name", className)]
      ({} : Settings).routeTemplate = .ok (apiRoute table className) := by
  have hscan : Pattern.scan ({} : Settings).routeTemplate =
      ((Text.ofString "Route::apiResource('").map .literal ++ .field { name := "table" } ::
        ((Text.ofString "', '").map .literal ++ .field { name := "class_name" } ::
          (Text.ofString "Controller');").map .literal), none) := by
    decide
  have htable : ∀ fillLayout, Pattern.fillField attributes
      [("table", table), ("class_name", className)] fillLayout { name := "table" } = .ok table :=
    fun _ => Pattern.fillField_named (by decide) rfl (by decide) rfl
  have hclass : ∀ fillLayout, Pattern.fillField attributes
      [("table", table), ("class_name", className)] fillLayout { name := "class_name" } =
        .ok className :=
    fun _ => Pattern.fillField_named (by decide) rfl (by decide) rfl
  have hpieces := Pattern.fill_of_pieces hscan (Pattern.mapM_literals_append
    (Pattern.mapM_field (htable _) (Pattern.mapM_literals_append
      (Pattern.mapM_field (hclass _) (Pattern.mapM_literals _)))))
  refine hpieces.trans (congrArg Except.ok ?_)
  have hend := Pattern.concat_literals (Text.ofString "Controller');") []
  rw [List.append_nil] at hend
  rw [Pattern.concat_literals]
  show _ ++ (table ++ Text.concat (_ ++ className :: _)) = _
  rw [Pattern.concat_literals]
  show _ ++ (table ++ (_ ++ (className ++ Text.concat _))) = _
  rw [hend]
  rfl

/-! ## Its code points -/

/-- What holds of all code points of the names and of the template holds of the declaration. -/
theorem forall_mem_apiRoute {P : CodePoint → Prop} {table className : Text}
    (htable : ∀ c ∈ table, P c) (hclass : ∀ c ∈ className, P c)
    (hframe : ∀ c ∈ apiRoute [] [], P c) : ∀ c ∈ apiRoute table className, P c := by
  have hempty : apiRoute [] [] = Text.ofString "Route::apiResource('" ++
      (Text.ofString "', '" ++ Text.ofString "Controller');") := rfl
  rw [hempty] at hframe
  intro c hc
  unfold apiRoute at hc
  simp only [List.mem_append] at hc hframe
  rcases hc with hc | hc | hc | hc | hc
  · exact hframe c (Or.inl hc)
  · exact htable c hc
  · exact hframe c (Or.inr (Or.inl hc))
  · exact hclass c hc
  · exact hframe c (Or.inr (Or.inr hc))

/-- The default declaration of a table with a plain name is one line. -/
theorem line_apiRoute {table className : Text} (htable : TableName table)
    (hclass : Plain className) : Line (apiRoute table className) := by
  -- Neither line ends nor surrogates are letters, digits or underscores.
  have hplain : ∀ {c : CodePoint}, c.isAlphanumeric = true →
      c ≠ .char '\n' ∧ c ≠ .char '\r' ∧ Utf8.isSurrogate c = false := by
    intro c hc
    refine ⟨?_, ?_, ?_⟩
    · rintro rfl
      exact absurd hc (by decide)
    · rintro rfl
      exact absurd hc (by decide)
    · cases c with
      | char c => rfl
      | surrogate index =>
        have hcode : 0xD800 + index.val < 0x80 := CodePoint.code_of_isAlphanumeric hc
        omega
  have hall : ∀ c ∈ apiRoute table className,
      c ≠ .char '\n' ∧ c ≠ .char '\r' ∧ Utf8.isSurrogate c = false := by
    refine forall_mem_apiRoute ?_ (fun c hc => hplain (hclass c hc)) (by decide)
    intro c hc
    rcases htable c hc with hc | rfl
    · exact hplain hc
    · decide
  exact ⟨fun hmem => (hall _ hmem).1 rfl, fun hmem => (hall _ hmem).2.1 rfl,
    fun c hc => (hall c hc).2.2⟩

/-- The declaration is registered as it is: it ends with its semicolon. -/
theorem normalize_apiRoute (table className : Text) :
    normalize (apiRoute table className) = apiRoute table className := by
  obtain ⟨body, hbody⟩ : ∃ body, apiRoute table className = body ++ [.char ')', .char ';'] := by
    refine ⟨Text.ofString "Route::apiResource('" ++ (table ++ (Text.ofString "', '" ++
      (className ++ Text.ofString "Controller'"))), ?_⟩
    unfold apiRoute
    simp only [List.append_assoc]
    rfl
  have hfirm : Text.Firm (apiRoute table className) := by
    refine ⟨⟨.char 'R', _, rfl, by decide⟩, ⟨body ++ [.char ')'], .char ';', ?_, by decide⟩⟩
    rw [hbody, List.append_assoc]
    rfl
  have htrim : Text.trim (apiRoute table className) = apiRoute table className := by
    have haround := Text.trim_around hfirm [] []
    rw [List.nil_append, List.append_nil] at haround
    exact haround.trans (List.append_nil _)
  unfold normalize
  rw [htrim, hbody, Text.trimEnd_around (by decide) body [.char ';'],
    Text.trimEnd_around (by decide)]
  exact List.append_assoc _ _ _

/-- The only opening bracket of a declaration stands before the name of its table. -/
theorem apiRoute_eq (table className : Text) :
    apiRoute table className = Text.ofString "Route::apiResource" ++ .char '(' ::
      (.char '\'' :: (table ++ .char '\'' ::
        (Text.ofString ", '" ++ (className ++ Text.ofString "Controller');")))) :=
  rfl

/-- The name of a table in ASCII has no quote. -/
theorem quote_not_mem {table : Text} (h : TableName table) : CodePoint.char '\'' ∉ table :=
  fun hmem => absurd (h _ hmem) (by decide)

/-- Of what declares a route, only the declaration of the same table is a part. -/
theorem infix_apiRoute {table className table' className' : Text} (htable : TableName table)
    (htable' : TableName table') (hclass' : Plain className')
    (h : apiRoute table className <:+: apiRoute table' className') : table = table' := by
  obtain ⟨before, after, h⟩ := h
  rw [apiRoute_eq, apiRoute_eq, ← List.append_assoc, List.append_assoc, List.cons_append] at h
  have hhead : CodePoint.char '(' ∉ Text.ofString "Route::apiResource" := by decide
  have htail : CodePoint.char '(' ∉ CodePoint.char '\'' :: (table' ++ .char '\'' ::
      (Text.ofString ", '" ++ (className' ++ Text.ofString "Controller');"))) := by
    have hname : CodePoint.char '(' ∉ table' := fun hmem => absurd (htable' _ hmem) (by decide)
    have hclass : CodePoint.char '(' ∉ className' := fun hmem => absurd (hclass' _ hmem) (by decide)
    simp only [List.mem_cons, List.mem_append, hname, hclass]
    decide
  -- Both brackets are the same, and so are the names up to the first quote after them.
  obtain ⟨_, _, hrest⟩ := (List.append_cons_inj_of_notMem hhead htail).mp h.symm
  rw [List.cons_append, List.append_assoc, List.cons_append] at hrest
  obtain ⟨_, hnames⟩ := List.cons.inj hrest
  have hle : table' <+: table :=
    Text.prefix_before_barrier (quote_not_mem htable') ⟨_, hnames⟩
  have hge : table <+: table' :=
    Text.prefix_before_barrier (quote_not_mem htable) ⟨_, hnames.symm⟩
  exact hge.eq_of_length_le hle.length_le

end Scaffold.Route
