import Scaffold.Inference.Completion
import Scaffold.Proofs.Program

/-!
# When a completion is reported

Whatever comes of a request for a completion is reported as a completion or as a failure, unless the
reply is defective. That takes an object with a field of no use beside the completion: a duration
that is neither a number nor unset, or a name of the model that is no text (`Described`). Only then
a completion that the object holds is lost; otherwise it is reported as it is, whatever else the
object holds (`completion_reported_iff`).

`Described` is about the two fields beside the completion and about nothing else, and a defect is
what becomes of a content that is not described, whatever the text of the completion
(`outcome_defective_iff`). Every other outcome is a completion or a failure with a wording of its
own, by the cases of the reply.
-/

namespace Scaffold.Inference

open Program (except_bind_ok_iff)

/-! ## Fields that describe a completion -/

/-- Whether binary64 reaches as far as a whole number. -/
def Reached (n : Int) : Prop := (Float.ofInt n).isFinite = true

/-- What may stand for a duration: a number, where truth values count as numbers, or nothing that
is set. -/
def IsDuration : Json → Prop
  | .int n => Reached n
  | .bool b => Reached (if b then 1 else 0)
  | .float _ => True
  | v => v.isSet = false

/-- The fields beside a completion are of use, as far as they are there. -/
structure Described (fields : List (Text × Json)) : Prop where
  duration : ∀ {v}, Ordered.get? fields "total_duration" = some v → IsDuration v
  model : ∀ {v}, Ordered.get? fields "model" = some v → ∃ name, v = .text name

theorem described_nil : Described [] := ⟨nofun, nofun⟩

/-- A duration is of use exactly if it is a number in range or counts as none. -/
theorem millisecondsOf_ok_iff {v : Json} : (∃ x, millisecondsOf v = .ok x) ↔ IsDuration v := by
  have hscaled : ∀ n : Int, (∃ x, (if (Float.ofInt n).isFinite then
      (.ok (Float.ofInt n / unitsPerMillisecond) : Except Defect Float)
      else .error .oversizedDuration) = .ok x) ↔ Reached n := by
    intro n
    unfold Reached
    split
    next h => exact iff_of_true ⟨_, rfl⟩ h
    next h => exact iff_of_false nofun h
  have hother : ∀ v : Json, (∃ x, (if v.isSet then .error (.durationKind v.kind)
      else .ok 0.0 : Except Defect Float) = .ok x) ↔ v.isSet = false := by
    intro v
    cases v.isSet with
    | true => exact iff_of_false nofun nofun
    | false => exact iff_of_true ⟨_, rfl⟩ rfl
  cases v with
  | int n => exact hscaled n
  | bool b => exact hscaled (if b then 1 else 0)
  | float x => exact iff_of_true ⟨_, rfl⟩ trivial
  | null => exact hother .null
  | text t => exact hother (.text t)
  | list items => exact hother (.list items)
  | object fields => exact hother (.object fields)

/-- A completion comes about exactly if the fields beside it are of use. -/
theorem completion_ok_iff {model : Text} {c : Content} :
    (∃ completion, c.completion model = .ok completion) ↔ Described c.fields := by
  unfold Content.completion
  constructor
  · intro hparts
    obtain ⟨completion, h⟩ := hparts
    obtain ⟨x, hx, h⟩ := except_bind_ok_iff.mp h
    constructor
    · intro v hv
      rw [hv, Option.getD_some] at hx
      exact millisecondsOf_ok_iff.mp ⟨x, hx⟩
    · intro v hv
      rw [hv, Option.getD_some] at h
      split at h
      next name => exact ⟨name, rfl⟩
      next => cases h
  · intro h
    have hduration : ∃ x,
        millisecondsOf ((Ordered.get? c.fields "total_duration").getD .null) = .ok x := by
      rw [millisecondsOf_ok_iff]
      cases hv : Ordered.get? c.fields "total_duration" with
      | none => exact rfl
      | some v => exact h.duration hv
    obtain ⟨x, hx⟩ := hduration
    cases hv : Ordered.get? c.fields "model" with
    | none => exact ⟨_, except_bind_ok_iff.mpr ⟨x, hx, rfl⟩⟩
    | some v =>
      obtain ⟨name, rfl⟩ := h.model hv
      exact ⟨_, except_bind_ok_iff.mpr ⟨x, hx, rfl⟩⟩

/-- The completion is the text that was found, whatever stands beside it. -/
theorem completion_text {model : Text} {c : Content} {completion : Completion}
    (h : c.completion model = .ok completion) : completion.text = c.text := by
  obtain ⟨x, _, h⟩ := except_bind_ok_iff.mp h
  split at h
  · cases h
    rfl
  · cases h

/-! ## Bodies -/

/-- The fields of a body that is a JSON object. -/
def fieldsOf? (body : Text) : Option (List (Text × Json)) :=
  match Json.read .lenient body with
  | .ok (.object fields) => some fields
  | _ => none

/-- The text in the field `response`, if there is one that is not empty. -/
def response? (fields : List (Text × Json)) : Option Text :=
  match Ordered.get? fields "response" with
  | some (.text (c :: rest)) => some (c :: rest)
  | _ => none

/-- The content of a body has its fields, or none if the body is no JSON. -/
theorem fields_ofBody {body : Text} {c : Content} (h : Content.ofBody body = .ok c) :
    c.fields = (fieldsOf? body).getD [] := by
  unfold Content.ofBody at h
  unfold fieldsOf?
  cases hread : Json.read .lenient body with
  | error e =>
    rw [hread] at h
    dsimp only at h ⊢
    split at h
    · cases h
    · cases h
      rfl
  | ok v =>
    rw [hread] at h
    cases v with
    | object fields =>
      dsimp only at h ⊢
      split at h
      · cases h
        rfl
      · cases h
        rfl
    | _ => cases h

/-- An object is never malformed. -/
theorem ofBody_of_fields {body : Text} {fields : List (Text × Json)}
    (h : fieldsOf? body = some fields) : ∃ c, Content.ofBody body = .ok c := by
  unfold fieldsOf? at h
  split at h
  next fields' hread =>
    unfold Content.ofBody
    rw [hread]
    dsimp only
    split
    · exact ⟨_, rfl⟩
    · exact ⟨_, rfl⟩
  next => cases h

/-- The text in the field `response` is the completion. -/
theorem ofBody_of_response {body t : Text} {fields : List (Text × Json)}
    (h : fieldsOf? body = some fields) (hresponse : response? fields = some t) :
    Content.ofBody body = .ok ⟨t, fields⟩ := by
  unfold response? at hresponse
  split at hresponse
  next c rest hfield =>
    cases hresponse
    have hfound : completionFields.findSome? (Ordered.get? fields) = some (.text (c :: rest)) := by
      simp [completionFields, hfield]
    unfold fieldsOf? at h
    split at h
    next fields' hread =>
      cases h
      unfold Content.ofBody
      rw [hread]
      dsimp only
      rw [hfound]
      rfl
    next => cases h
  next => cases hresponse

/-! ## Replies -/

/-- A successful reply with a content comes to its completion, or to the defect of that. -/
theorem outcome_of_content {status : Nat} {content : Utf8.Bytes} {body : Text} {c : Content}
    (hsuccess : isSuccess status = true) (h : Content.ofBody body = .ok c) (s : Server)
    (model : Text) :
    s.outcome model (.response status content body) =
      match c.completion model with
      | .ok completion => .completed completion
      | .error defect => .defective defect := by
  cases hcompletion : c.completion model with
  | ok completion => simp only [Server.outcome, if_pos hsuccess, h, hcompletion]
  | error defect => simp only [Server.outcome, if_pos hsuccess, h, hcompletion]

/-- The reply is an object, but a field beside the completion is of no use. -/
inductive Reply.Misdescribed : Reply → Prop where
  | object {status : Nat} {content : Utf8.Bytes} {body : Text} {fields : List (Text × Json)}
    (hsuccess : isSuccess status = true) (hfields : fieldsOf? body = some fields)
    (h : ¬ Described fields) : Misdescribed (.response status content body)

/-- Every reply is reported as a completion or as a failure, but for those that are misdescribed. -/
theorem outcome_defective_iff {s : Server} {model : Text} {r : Reply} :
    (∃ defect, s.outcome model r = .defective defect) ↔ r.Misdescribed := by
  constructor
  · intro hparts
    obtain ⟨defect, h⟩ := hparts
    cases r with
    | breakdown cause => cases cause <;> cases h
    -- A failed request, a status that is no success and a body that cannot be read all count as an
    -- outcome, so the fault lies in the fields of a body that was read.
    | response status content body =>
      cases hsuccess : isSuccess status with
      | false =>
        unfold Server.outcome at h
        dsimp only at h
        rw [hsuccess] at h
        cases h
      | true =>
        cases hbody : Content.ofBody body with
        | error cause =>
          unfold Server.outcome at h
          dsimp only at h
          rw [hsuccess, hbody] at h
          cases cause <;> cases h
        | ok c =>
          rw [outcome_of_content hsuccess hbody] at h
          have hdescribed : ¬ Described c.fields := by
            intro hdescribed
            have hok : ∃ completion, c.completion model = .ok completion :=
              completion_ok_iff.mpr hdescribed
            obtain ⟨completion, hcompletion⟩ := hok
            rw [hcompletion] at h
            cases h
          rw [fields_ofBody hbody] at hdescribed
          cases hfields : fieldsOf? body with
          | none =>
            rw [hfields] at hdescribed
            exact absurd described_nil hdescribed
          | some fields =>
            rw [hfields] at hdescribed
            exact .object hsuccess hfields hdescribed
  · intro h
    cases h with
    | object hsuccess hfields hdescribed =>
      obtain ⟨c, hbody⟩ := ofBody_of_fields hfields
      have hc := fields_ofBody hbody
      rw [hfields] at hc
      rw [outcome_of_content hsuccess hbody]
      cases hcompletion : c.completion model with
      | ok completion =>
        have hall := completion_ok_iff.mp ⟨completion, hcompletion⟩
        rw [hc] at hall
        exact absurd hall hdescribed
      | error defect => exact ⟨defect, rfl⟩

/-- Every reply is reported as a completion or as a failure, but for those that are misdescribed.
The text in the field `response` of an object is reported as it is exactly if the fields beside it
are of use, whatever else the object holds. -/
theorem completion_reported_iff (s : Server) (model : Text) (r : Reply) :
    ((∃ defect, s.outcome model r = .defective defect) ↔ r.Misdescribed) ∧
    ∀ {status : Nat} {content : Utf8.Bytes} {body t : Text} {fields : List (Text × Json)},
      r = .response status content body → isSuccess status = true →
      fieldsOf? body = some fields → response? fields = some t →
      ((∃ completion, s.outcome model r = .completed completion ∧ completion.text = t) ↔
        Described fields) := by
  refine ⟨outcome_defective_iff, ?_⟩
  rintro status content body t fields rfl hsuccess hfields hresponse
  rw [outcome_of_content hsuccess (ofBody_of_response hfields hresponse)]
  have hdescribed : (∃ completion, Content.completion model ⟨t, fields⟩ = .ok completion) ↔
      Described fields := completion_ok_iff
  cases hcompletion : Content.completion model ⟨t, fields⟩ with
  | ok completion =>
    exact iff_of_true ⟨completion, rfl, completion_text hcompletion⟩
      (hdescribed.mp ⟨completion, hcompletion⟩)
  | error defect =>
    rw [hcompletion] at hdescribed
    exact iff_of_false nofun fun h => nomatch (hdescribed.mpr h).choose_spec

/-- A completion is reported beside a duration that is null and a field that nothing reads. -/
theorem completion_reported_of_null_duration :
    let body : Text :=
      "\x7b\"total_duration\": null, \"done\": [1], \"response\": \"class User \x7b\x7d\"\x7d"
    (fieldsOf? body).bind response? = some "class User \x7b\x7d" ∧
      ∃ completion, (Server.ofUrl "http://localhost:11434" 30).outcome "codellama"
        (.ofText 200 body) = .completed completion ∧ completion.text = "class User \x7b\x7d" := by
  intro body
  have hfound : (fieldsOf? body).bind response? = some "class User \x7b\x7d" := by
    decide +kernel
  have hplain : (fieldsOf? body).all (fun fields =>
      (Ordered.get? fields "total_duration").map Json.kind == some (Json.kind .null) &&
        (Ordered.get? fields "model").isNone) = true := by
    decide +kernel
  obtain ⟨fields, hfields, hresponse⟩ := Option.bind_eq_some_iff.mp hfound
  rw [hfields, Option.all_some, Bool.and_eq_true] at hplain
  obtain ⟨hduration, hmodel⟩ := hplain
  have hdescribed : Described fields := by
    constructor
    · intro v hv
      rw [hv, Option.map_some] at hduration
      cases v with
      | null => rfl
      | _ =>
        simp only [Json.kind] at hduration
        exact absurd hduration (by decide)
    · intro v hv
      rw [hv] at hmodel
      cases hmodel
  exact ⟨hfound, ((completion_reported_iff _ _ _).2 rfl rfl hfields hresponse).mpr hdescribed⟩

/-- A name of the model that is null loses the completion beside it. -/
theorem completion_lost_for_null_model :
    let body : Text := "\x7b\"model\": null, \"response\": \"class User \x7b\x7d\"\x7d"
    (fieldsOf? body).bind response? = some "class User \x7b\x7d" ∧
      ((Server.ofUrl "http://localhost:11434" 30).outcome "codellama"
        (.ofText 200 body) matches .defective .modelKind) = true := by
  decide +kernel

end Scaffold.Inference
