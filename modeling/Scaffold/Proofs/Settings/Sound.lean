import Scaffold.Proofs.Files.Spelling
import Scaffold.Proofs.Json.Given
import Scaffold.Settings.Environment

/-!
# What checked settings are like

Settings that come from a file or from the environment have been checked, and more is known of them
than of settings that are put together by hand (`Settings.Sound`): the provider is one there is, the
timeout is positive and no longer than a number may be, the directories have every key once, and the
paths are such as are read from a text.

Checks are combined by `<$>` and `<*>`, which give a value only where every part gives one
(`map_value`, `seq_value`). So each field of settings that passed comes from a check that passed,
and the theorem about a record is a list of the lemmas about its fields.

The environment takes another way to the same checks: its variables become the fields of a document,
and those that are not set are left out (`backendFields_eq`). A number in a variable is read by
rules of its own, with blanks and underscores, and is held to the same length.
-/

namespace Scaffold

open Files (Path)
open Json (Given)

/-! ## Checked values -/

namespace Checked

variable {α β : Type}

/-- What is made of a checked value is made of a value. -/
theorem map_value {f : α → β} {x : Checked α} {b : β} (h : f <$> x = .value b) :
    ∃ a, x = .value a ∧ f a = b := by
  cases x with
  | value a =>
    cases h
    exact ⟨a, rfl, rfl⟩
  | complaints cs => cases h

/-- Two checks that pass together pass each. -/
theorem seq_value {f : Checked (α → β)} {x : Checked α} {b : β} (h : f <*> x = .value b) :
    ∃ g a, f = .value g ∧ x = .value a ∧ g a = b := by
  cases f with
  | complaints cs => cases x <;> cases h
  | value g =>
    cases x with
    | complaints cs => cases h
    | value a =>
      cases h
      exact ⟨g, a, rfl, rfl, rfl⟩

/-- The place that a complaint names makes no difference to a value. -/
theorem inside_value {step : Text} {x : Checked α} {a : α} (h : inside step x = .value a) :
    x = .value a := by
  cases x with
  | value b =>
    cases h
    rfl
  | complaints cs => cases h

/-- The value of a field is its default, or was checked. -/
theorem field_value {fields : List (Text × Json)} {name : Text} {default a : α}
    {check : Json → Checked α} (h : field fields name (some default) check = .value a) :
    a = default ∨ ∃ v, (name, v) ∈ fields ∧ check v = .value a := by
  have h := inside_value h
  split at h
  next v hv => exact Or.inr ⟨v, Ordered.mem_of_get? hv, h⟩
  next =>
    cases h
    exact Or.inl rfl

/-- An optional value that is there has passed its check. -/
theorem optional_value {check : Json → Checked α} {v : Json} {a : α}
    (h : optional check v = .value (some a)) : check v = .value a := by
  unfold optional at h
  split at h
  next => cases h
  next =>
    obtain ⟨a', ha', heq⟩ := map_value h
    cases heq
    exact ha'

/-- A path that is read from a text is spelled as paths are. -/
theorem path_spelled {v : Json} {p : Path} (h : path v = .value p) : p.Spelled := by
  cases v with
  | text t =>
    cases h
    exact Path.spelled_ofText t
  | _ => cases h

/-- A map of texts has the keys of the object that it is read from. -/
theorem keys_textMap {fields : List (Text × Json)} {m : Ordered Text}
    (h : textMap.go fields = .value m) : Ordered.keys m = Ordered.keys fields := by
  induction fields generalizing m with
  | nil =>
    cases h
    rfl
  | cons f fields ih =>
    obtain ⟨k, v⟩ := f
    obtain ⟨g, rest, hg, hrest, heq⟩ := seq_value h
    obtain ⟨t, _, rfl⟩ := map_value hg
    cases heq
    exact congrArg (k :: ·) (ih hrest)

/-- A map of texts that was read has every key once, as objects do that were read. -/
theorem nodup_textMap {v : Json} (hv : Given v) {m : Ordered Text} (h : textMap v = .value m) :
    (Ordered.keys m).Nodup := by
  cases hv with
  | object hkeys _ => exact (keys_textMap h) ▸ hkeys
  | _ => cases h

/-! ## Whole numbers -/

/-- Underscores aside, a numeral holds digits. -/
theorem isDigit_plainDigits {t digits : Text} : ∀ {afterDigit : Bool},
    plainDigits? afterDigit t = some digits → ∀ c ∈ digits, c.isDigit = true := by
  induction t generalizing digits with
  | nil =>
    intro afterDigit h
    cases afterDigit <;> cases h
    exact nofun
  | cons c t ih =>
    intro afterDigit h
    unfold plainDigits? at h
    split at h
    next hc =>
      obtain ⟨rest, hrest, rfl⟩ := Option.map_eq_some_iff.mp h
      exact List.forall_mem_cons.mpr ⟨hc, ih hrest⟩
    next =>
      split at h
      next => exact ih h
      next => cases h

/-- A whole number that is read from a text is no longer than a number may be. -/
theorem natAbs_wholeOfText {t : Text} {n : Int} (h : wholeOfText t = .value n) :
    n.natAbs < 10 ^ Json.maxDigits := by
  unfold wholeOfText at h
  dsimp only at h
  split at h
  next => cases h
  next digits hdigits =>
    split at h
    next => cases h
    next hlength =>
      cases h
      have hsize : Text.toNat digits < 10 ^ Json.maxDigits :=
        Nat.lt_of_lt_of_le (Text.toNat_lt (isDigit_plainDigits hdigits))
          (Nat.pow_le_pow_right (by decide) (Nat.not_lt.mp hlength))
      split <;> omega

/-- Numbers that fit a machine word are shorter than a number may be. -/
theorem lt_of_isInsideWord {n : Int} (h : isInsideWord n = true) :
    n.natAbs < 10 ^ Json.maxDigits := by
  have hword : n.natAbs < 10 ^ 19 := Nat.lt_of_lt_of_le (of_decide_eq_true h) (by decide)
  exact Nat.lt_of_lt_of_le hword (Nat.pow_le_pow_right (by decide) (by decide))

/-- A whole number that is read from a document is no longer than a number may be, whichever value
it stands as there. -/
theorem natAbs_whole {v : Json} (hv : Given v) {n : Int} (h : whole v = .value n) :
    n.natAbs < 10 ^ Json.maxDigits := by
  cases hv with
  | int hn =>
    cases h
    exact hn
  | bool b =>
    cases b <;> cases h
    · exact lt_of_isInsideWord (by decide)
    · exact lt_of_isInsideWord (by decide)
  -- A fraction passes only if it is whole and inside a machine word, which is far below the bound.
  | float x =>
    unfold whole at h
    dsimp only at h
    split at h
    next => cases h
    next =>
      split at h
      next => cases h
      next =>
        split at h
        next hword =>
          cases h
          exact lt_of_isInsideWord hword
        next => cases h
  | text t => exact natAbs_wholeOfText h
  | _ => cases h

/-- A positive number is one, and no longer than a number may be. -/
theorem positive_value {v : Json} (hv : Given v) {n : Nat} (h : positive v = .value n) :
    1 ≤ n ∧ n < 10 ^ Json.maxDigits := by
  unfold positive at h
  split at h
  next m hm =>
    have hsize := natAbs_whole hv hm
    split at h
    next =>
      cases h
      omega
    next => cases h
  next => cases h

end Checked

/-! ## Settings -/

/-- What is known of checked settings of the backend. -/
structure BackendSettings.Sound (b : BackendSettings) : Prop where
  provider : b.provider ∈ providers
  positive : 1 ≤ b.timeout
  bounded : b.timeout < 10 ^ Json.maxDigits

/-- What is known of checked settings. -/
structure Settings.Sound (s : Settings) : Prop where
  baseDirectory : s.baseDirectory.Spelled
  directories : (Ordered.keys s.directories).Nodup
  stubDirectory : ∀ p ∈ s.stubDirectory, p.Spelled
  structureFile : ∀ p ∈ s.structureFile, p.Spelled
  backend : s.backend.Sound

/-- The backend settings by default are checked. -/
theorem BackendSettings.sound_default : ({} : BackendSettings).Sound :=
  ⟨by decide, by decide, Checked.lt_of_isInsideWord (n := 120) (by decide)⟩

/-- The settings by default are checked. -/
theorem Settings.sound_default : ({} : Settings).Sound :=
  ⟨nofun, by decide, nofun, nofun, BackendSettings.sound_default⟩

/-- A provider that passes is one there is. -/
theorem BackendSettings.provider_mem {v : Json} {t : Text} (h : provider? v = .value t) :
    t ∈ providers := by
  unfold provider? at h
  split at h
  next =>
    split at h
    next hmem =>
      cases h
      exact List.elem_iff.mp hmem
    next => cases h
  next => cases h

/-- Backend settings that are read from fields are checked. -/
theorem BackendSettings.sound_ofFields {fields : List (Text × Json)}
    (hfields : ∀ f ∈ fields, Given f.2) {b : BackendSettings} (h : ofFields fields = .value b) :
    b.Sound := by
  obtain ⟨_, timeout, h₁, htimeout, rfl⟩ := Checked.seq_value h
  obtain ⟨_, enabled, h₂, _, rfl⟩ := Checked.seq_value h₁
  obtain ⟨_, model, h₃, _, rfl⟩ := Checked.seq_value h₂
  obtain ⟨_, url, h₄, _, rfl⟩ := Checked.seq_value h₃
  obtain ⟨provider, hprovider, rfl⟩ := Checked.map_value h₄
  have hsize : 1 ≤ timeout ∧ timeout < 10 ^ Json.maxDigits := by
    rcases Checked.field_value htimeout with rfl | ⟨v, hv, hcheck⟩
    · exact ⟨sound_default.positive, sound_default.bounded⟩
    · exact Checked.positive_value (hfields _ hv) hcheck
  refine ⟨?_, hsize.1, hsize.2⟩
  rcases Checked.field_value hprovider with rfl | ⟨v, _, hcheck⟩
  · exact sound_default.provider
  · exact provider_mem hcheck

theorem BackendSettings.sound_ofJson {v : Json} (hv : Given v) {b : BackendSettings}
    (h : ofJson v = .value b) : b.Sound := by
  cases hv with
  | object _ hfields => exact sound_ofFields hfields h
  | _ => cases h

/-- Settings that are read from fields are checked. -/
theorem Settings.sound_ofFields {fields : List (Text × Json)}
    (hfields : ∀ f ∈ fields, Given f.2) {s : Settings} (h : ofFields fields = .value s) :
    s.Sound := by
  -- The fields are taken off from the last to the first, as the constructor was applied to them.
  obtain ⟨_, backend, h₁, hbackend, rfl⟩ := Checked.seq_value h
  obtain ⟨_, debug, h₂, _, rfl⟩ := Checked.seq_value h₁
  obtain ⟨_, force, h₃, _, rfl⟩ := Checked.seq_value h₂
  obtain ⟨_, structureFile, h₄, hstructure, rfl⟩ := Checked.seq_value h₃
  obtain ⟨_, stubDirectory, h₅, hstubs, rfl⟩ := Checked.seq_value h₄
  obtain ⟨_, routeTemplate, h₆, _, rfl⟩ := Checked.seq_value h₅
  obtain ⟨_, routesFile, h₇, _, rfl⟩ := Checked.seq_value h₆
  obtain ⟨_, directories, h₈, hdirectories, rfl⟩ := Checked.seq_value h₇
  obtain ⟨_, baseDirectory, h₉, hbase, rfl⟩ := Checked.seq_value h₈
  obtain ⟨databaseUrl, _, rfl⟩ := Checked.map_value h₉
  refine ⟨?_, ?_, ?_, ?_, ?_⟩
  · rcases Checked.field_value hbase with rfl | ⟨v, _, hcheck⟩
    · exact sound_default.baseDirectory
    · exact Checked.path_spelled hcheck
  · rcases Checked.field_value hdirectories with rfl | ⟨v, hv, hcheck⟩
    · exact sound_default.directories
    · exact Checked.nodup_textMap (hfields _ hv) hcheck
  · rintro p rfl
    rcases Checked.field_value hstubs with heq | ⟨v, _, hcheck⟩
    · cases heq
    · exact Checked.path_spelled (Checked.optional_value hcheck)
  · rintro p rfl
    rcases Checked.field_value hstructure with heq | ⟨v, _, hcheck⟩
    · cases heq
    · exact Checked.path_spelled (Checked.optional_value hcheck)
  · rcases Checked.field_value hbackend with rfl | ⟨v, hv, hcheck⟩
    · exact sound_default.backend
    · exact BackendSettings.sound_ofJson (hfields _ hv) hcheck

/-- Settings that are read from a document are checked. -/
theorem Settings.sound_ofDocument {t : Text} {s : Settings} (h : ofDocument t = .value s) :
    s.Sound := by
  unfold ofDocument at h
  split at h
  next v hv =>
    cases Json.read_given hv with
    | object _ hfields => exact sound_ofFields hfields h
    | _ => cases h
  next => cases h

/-- Settings that are loaded from a file are checked. -/
theorem Settings.sound_load {p : Path} {t t' : Files.Tree} {s : Settings}
    (h : load p t = .ok (.ok s) t') : s.Sound := by
  unfold load at h
  split at h
  next text _ _ =>
    split at h
    next hdocument =>
      cases h
      exact sound_ofDocument hdocument
    next => cases h
  next => cases h

/-! ## The environment -/

namespace Environment

open Program (except_bind_ok_iff)

/-- The values of digits are below ten. -/
theorem digitValues_lt {t : Text} {digits : List Nat} : ∀ {afterDigit : Bool},
    digitValues? afterDigit t = some digits → ∀ d ∈ digits, d < 10 := by
  induction t generalizing digits with
  | nil =>
    intro afterDigit h
    cases afterDigit <;> cases h
    exact nofun
  | cons c t ih =>
    intro afterDigit h
    unfold digitValues? at h
    split at h
    next d hd =>
      obtain ⟨rest, hrest, rfl⟩ := Option.map_eq_some_iff.mp h
      refine List.forall_mem_cons.mpr ⟨?_, ih hrest⟩
      unfold CodePoint.digitValue? at hd
      obtain ⟨first, hfirst, rfl⟩ := Option.map_eq_some_iff.mp hd
      have hrange := List.find?_some hfirst
      simp only [Bool.and_eq_true, decide_eq_true_eq] at hrange
      omega
    next =>
      split at h
      next => exact ih h
      next => cases h

/-- A number in a variable is no longer than a number may be. -/
theorem natAbs_readWhole {t : Text} {n : Int} (h : readWhole t = .number n) :
    n.natAbs < 10 ^ Json.maxDigits := by
  unfold readWhole at h
  dsimp only at h
  split at h
  next => cases h
  next digits hdigits =>
    split at h
    next => cases h
    next hlength =>
      cases h
      have hfold : digits.foldl (fun n d => 10 * n + d) 0 < (0 + 1) * 10 ^ digits.length :=
        Text.foldl_digits_lt (digitValues_lt hdigits) 0
      have hsize : digits.foldl (fun n d => 10 * n + d) 0 < 10 ^ Json.maxDigits :=
        Nat.lt_of_lt_of_le (by omega)
          (Nat.pow_le_pow_right (by decide) (Nat.not_lt.mp hlength))
      split <;> omega

/-- The timeout in the environment is no longer than a number may be. -/
theorem timeout_bounded {env : Environment} {timeout : Option Int}
    (h : timeout? env = .ok timeout) : ∀ n ∈ timeout, n.natAbs < 10 ^ Json.maxDigits := by
  unfold timeout? at h
  split at h
  next =>
    cases h
    exact fun n hn => absurd hn (Option.not_mem_none n)
  next =>
    split at h
    next hnumber =>
      cases h
      intro n hn
      cases hn
      exact natAbs_readWhole hnumber
    next => cases h
    next => cases h

/-- What the environment says about each field of the backend. -/
def backendEntries (env : Environment) (timeout : Option Int) : List (Text × Option Json) :=
  [("provider", (get? env "TABLEGEN_PROVIDER").map .text),
   ("model", (get? env "TABLEGEN_MODEL").map .text),
   ("url", (get? env "TABLEGEN_BASE_URL").map .text),
   ("timeout", timeout.map .int),
   ("enabled", (flag? env "TABLEGEN_ENABLED").map .bool)]

theorem backendFields_eq (env : Environment) (timeout : Option Int) :
    backendFields env timeout =
      (backendEntries env timeout).filterMap fun e => e.2.map fun v => (e.1, v) := by
  unfold backendFields backendEntries
  generalize (get? env "TABLEGEN_PROVIDER").map Json.text = provider
  generalize (get? env "TABLEGEN_MODEL").map Json.text = model
  generalize (get? env "TABLEGEN_BASE_URL").map Json.text = url
  generalize timeout.map Json.int = seconds
  generalize (flag? env "TABLEGEN_ENABLED").map Json.bool = enabled
  cases provider <;> cases model <;> cases url <;> cases seconds <;> cases enabled <;> rfl

/-- The fields that the environment gives are texts, truth values and the timeout. -/
theorem given_backendFields {env : Environment} {timeout : Option Int}
    (htimeout : ∀ n ∈ timeout, n.natAbs < 10 ^ Json.maxDigits) :
    ∀ f ∈ backendFields env timeout, Given f.2 := by
  have htext : ∀ t : Option Text, ∀ v ∈ t.map Json.text, Given v := by
    intro t v hv
    obtain ⟨t, _, rfl⟩ := Option.map_eq_some_iff.mp hv
    exact .text t
  have hentries : ∀ e ∈ backendEntries env timeout, ∀ v ∈ e.2, Given v := by
    unfold backendEntries
    simp only [List.forall_mem_cons, List.not_mem_nil, false_implies, implies_true, and_true]
    refine ⟨htext _, htext _, htext _, fun v hv => ?_, fun v hv => ?_⟩
    · obtain ⟨n, hn, rfl⟩ := Option.map_eq_some_iff.mp hv
      exact .int (htimeout n hn)
    · obtain ⟨b, _, rfl⟩ := Option.map_eq_some_iff.mp hv
      exact .bool b
  intro f hf
  rw [backendFields_eq] at hf
  obtain ⟨e, he, hf⟩ := List.mem_filterMap.mp hf
  obtain ⟨v, hv, rfl⟩ := Option.map_eq_some_iff.mp hf
  exact hentries e he v hv

/-- Settings that come from the environment are checked. -/
theorem sound_settings {env : Environment} {s : Settings} (h : settings env = .ok s) :
    s.Sound := by
  unfold settings at h
  obtain ⟨timeout, htimeout, h⟩ := except_bind_ok_iff.mp h
  split at h
  next => cases h
  next backend hbackend =>
    cases h
    have hbase : ∀ t : Option Text,
        ((t.map Path.ofText).getD ({} : Settings).baseDirectory).Spelled := by
      intro t
      cases t with
      | none => exact Settings.sound_default.baseDirectory
      | some t => exact Path.spelled_ofText t
    refine ⟨hbase _, Settings.sound_default.directories, ?_, nofun, ?_⟩
    · intro p hp
      obtain ⟨t, _, rfl⟩ := Option.map_eq_some_iff.mp hp
      exact Path.spelled_ofText t
    · exact BackendSettings.sound_ofFields (given_backendFields (timeout_bounded htimeout)) hbackend

end Environment

end Scaffold
