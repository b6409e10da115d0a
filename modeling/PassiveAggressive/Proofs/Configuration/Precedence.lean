import PassiveAggressive.Proofs.Command.Preparing
import PassiveAggressive.Proofs.Configuration.Merging
import PassiveAggressive.Proofs.Configuration.Overriding
import PassiveAggressive.Proofs.Session.Failure

/-!
# Which source counts

Each setting of the learner may come from the command line, from a variable of the environment,
from the file of bindings or from the document, and is its default where none of them says
anything.  `Field` is a setting with its names, and `Field.value` the first word on it: the
sources are asked in this order, a variable that is set to nothing says nothing, and yet it
keeps the file of bindings from being asked.

The program comes to the same by other means.  It fills the gaps of the environment from the
file, files the variables over the document's entries, checks what it has, and puts the command
line on top of the result.  So there are two steps to follow: what is configured
(`load_eq_ok_iff`), and what the command line makes of it (`settings_of_settles`).  The sections
on the log and on the table take no part in this, and are those of the document.
-/

open PassiveAggressive.Configuration

namespace PassiveAggressive

/-- A setting of the learner: the variable and the entry that configure it, how a value is read,
and what it is where nothing is said. -/
structure Field (α : Type) where
  variableName : String
  entryName : String
  read : Value → Option α
  otherwise : α

/-- What may set the learner, from the source that counts most. -/
structure Sources where
  /-- What the command line says. -/
  options : Section
  environment : Variables
  /-- What the file of bindings says. -/
  bindings : Named (Option String)
  /-- What the document says in the learner's section. -/
  document : Section

namespace Field

variable {α : Type}

/-- The field as it is read from what is said, if it can be. -/
def readIn (f : Field α) (said : Option Value) : Option α :=
  match said with
  | some v => f.read v
  | none => some f.otherwise

/-- What the file of bindings says of a variable that the environment does not have. -/
def bound (f : Field α) (s : Sources) : Option Value :=
  if s.environment.has f.variableName then none
  else spoken (s.bindings.get? f.variableName).join

/-- What is said, the command line apart. -/
def configured (f : Field α) (s : Sources) : Option Value :=
  (spoken (s.environment.get? f.variableName)).or
    ((f.bound s).or (s.document.get? f.entryName))

/-- The field as the first source has it that says anything. -/
def value (f : Field α) (s : Sources) : Option α :=
  f.readIn ((s.options.get? f.entryName).or (f.configured s))

/-- The command line can be read, and so can the first of the other sources. -/
def Valid (f : Field α) (s : Sources) : Prop :=
  (f.readIn (s.options.get? f.entryName)).isSome = true ∧
    (f.readIn (f.configured s)).isSome = true

instance (f : Field α) (s : Sources) : Decidable (f.Valid s) :=
  inferInstanceAs (Decidable (_ ∧ _))

/-- The learner's variant. -/
def variant : Field Variant :=
  ⟨"PA_VARIANT", "variant", fun v => (Variant.resolve v).toOption, Settings.default.variant⟩

/-- The learner's aggressiveness, or null for the one of its variant. -/
def aggressiveness : Field (Option Float) :=
  ⟨"PA_AGGRESSIVENESS", "aggressiveness", fun v => (Entry.number? v).toOption,
    Settings.default.aggressiveness⟩

/-- The learner's margin. -/
def epsilon : Field Float :=
  ⟨"PA_EPSILON", "epsilon", fun v => (Entry.number v).toOption, Settings.default.epsilon⟩

theorem exists_value {f : Field α} {s : Sources} (h : f.Valid s) : ∃ a, f.value s = some a := by
  rw [← Option.isSome_iff_exists, value]
  cases hoption : s.options.get? f.entryName with
  | none => simpa using h.2
  | some v => simpa [hoption] using h.1

/-- The command line has the first word, if it says anything. -/
theorem value_eq_elim {β : Type} {f : Field α} {s : Sources} {option : Option β}
    {toValue : β → Value} {configured : α}
    (hoption : s.options.get? f.entryName = option.map toValue)
    (hconfigured : f.readIn (f.configured s) = some configured) :
    f.value s = option.elim (some configured) fun given => f.read (toValue given) := by
  rw [value, hoption]
  cases option with
  | none => exact hconfigured
  | some given => rfl

theorem get?_override_eq_configured {f : Field α} {s : Sources} {v : Variables}
    {es : List (Value × Value)} (hf : (f.variableName, f.entryName) ∈ overrides)
    (hv : v.get? f.variableName =
      (s.environment.get? f.variableName).or (s.bindings.get? f.variableName).join)
    (hes : s.document = .ofEntries es) :
    (Section.ofEntries (override v es)).get? f.entryName = f.configured s := by
  rw [get?_override hf, hv, configured, bound, hes, Named.has]
  cases s.environment.get? f.variableName with
  | none => simp [spoken]
  | some value => simp

end Field

namespace Sources

/-- Each setting of the learner can be read. -/
structure Valid (s : Sources) : Prop where
  variant : Field.variant.Valid s
  aggressiveness : Field.aggressiveness.Valid s
  epsilon : Field.epsilon.Valid s

/-- The settings are those that count. -/
structure Settles (s : Sources) (x : Settings Float) : Prop where
  variant : Field.variant.value s = some x.variant
  aggressiveness : Field.aggressiveness.value s = some x.aggressiveness
  epsilon : Field.epsilon.value s = some x.epsilon

/-- The sources of a learner's settings: what the command line says, the environment, the text of
the file of bindings, and the entries of the document's section on the learner. -/
def gather (options : Section) (env : Variables) (bindings : Option String)
    (inner : List (Value × Value)) : Sources :=
  ⟨options, env, env.bound bindings, .ofEntries inner⟩

theorem exists_settles {s : Sources} (h : s.Valid) : ∃ x, s.Settles x := by
  obtain ⟨v, hv⟩ := Field.exists_value h.variant
  obtain ⟨c, hc⟩ := Field.exists_value h.aggressiveness
  obtain ⟨e, he⟩ := Field.exists_value h.epsilon
  exact ⟨⟨v, c, e⟩, hv, hc, he⟩

end Sources

/-! ## What is configured -/

theorem mapError_eq_ok_iff {α ε ε' : Type} {r : Except ε α} {f : ε → ε'} {a : α} :
    r.mapError f = .ok a ↔ r = .ok a := by
  cases r <;> simp [Except.mapError]

theorem Section.entry_eq_ok_iff {α : Type} {s : Section} {name : String}
    {read : Value → Except Complaint α} {otherwise a : α} :
    s.entry name read otherwise = .ok a ↔
      (match s.get? name with
        | some v => (read v).toOption
        | none => some otherwise) = some a := by
  unfold entry
  cases s.get? name with
  | none => simp
  | some v => cases hv : read v <;> simp [hv, Except.mapError, Except.toOption]

namespace Settings

theorem variantOf_eq_ok_iff {s : Section} {v : Variant} :
    variantOf s = .ok v ↔ Field.variant.readIn (s.get? "variant") = some v := by
  unfold variantOf Field.readIn Field.variant
  cases s.get? "variant" with
  | none => simp [default]
  | some given => cases hgiven : Variant.resolve given <;> simp [hgiven, Except.toOption]

theorem ofSection_eq_ok_iff {v : Variant} {s : Section} {x : Settings Float} :
    ofSection v s = .ok x ↔
      v = x.variant ∧
      Field.aggressiveness.readIn (s.get? "aggressiveness") = some x.aggressiveness ∧
      Field.epsilon.readIn (s.get? "epsilon") = some x.epsilon := by
  simp only [ofSection, Checked.apply_eq_ok_iff, Section.entry_eq_ok_iff, Except.ok.injEq]
  constructor
  · rintro ⟨_, e, ⟨_, c, rfl, hc, rfl⟩, he, rfl⟩
    exact ⟨rfl, hc, he⟩
  · rintro ⟨rfl, hc, he⟩
    exact ⟨_, _, ⟨_, _, rfl, hc, rfl⟩, he, rfl⟩

end Settings

namespace Configuration

/-- The section on the log in the entries of a document. -/
def logOf (es : List (Value × Value)) : Checked LogSettings :=
  section_ (.ofEntries es) "log" LogSettings.model LogSettings.ofSection .default

/-- The section on the table in the entries of a document. -/
def tableOf (es : List (Value × Value)) : Checked TableLayout :=
  section_ (.ofEntries es) "dataset" TableLayout.model TableLayout.ofSection .default

/-- The entries of the learner's section, where it is a mapping, null or missing. -/
def learnerEntries? (es : List (Value × Value)) : Option (List (Value × Value)) :=
  match (Section.ofEntries es).get? "training" with
  | none | some .null => some []
  | some (.dict inner) => some inner
  | _ => none

/-- The sections are accepted each for itself. -/
theorem ofSections_eq_ok_iff {es : List (Value × Value)} {learner : Section} {c : Configuration} :
    ofSections (.ofEntries es) learner = .ok c ↔
      Field.variant.readIn (learner.get? "variant") = some c.learner.variant ∧
      Field.aggressiveness.readIn (learner.get? "aggressiveness") =
        some c.learner.aggressiveness ∧
      Field.epsilon.readIn (learner.get? "epsilon") = some c.learner.epsilon ∧
      logOf es = .ok c.log ∧ tableOf es = .ok c.table := by
  rw [← Settings.variantOf_eq_ok_iff, ofSections, logOf, tableOf]
  cases hvariant : Settings.variantOf learner with
  | error e => simp
  | ok v =>
    simp only [mapError_eq_ok_iff, Checked.apply_eq_ok_iff, Checked.within,
      Settings.ofSection_eq_ok_iff, Except.ok.injEq]
    constructor
    · rintro ⟨_, table, ⟨_, x, ⟨_, log, rfl, hlog, rfl⟩, ⟨rfl, hc, he⟩, rfl⟩, htable, rfl⟩
      exact ⟨rfl, hc, he, hlog, htable⟩
    · rintro ⟨rfl, hc, he, hlog, htable⟩
      exact ⟨_, _, ⟨_, _, ⟨_, _, rfl, hlog, rfl⟩, ⟨rfl, hc, he⟩, rfl⟩, htable, rfl⟩

theorem entries_of_learnerEntries? {es inner : List (Value × Value)}
    (h : learnerEntries? es = some inner) :
    entries (((Section.ofEntries es).get? "training").getD .null) = .ok inner := by
  unfold learnerEntries? at h
  split at h
  · rename_i hget
    cases h
    simp [hget, entries, Value.isTrue]
  · rename_i hget
    cases h
    simp [hget, entries, Value.isTrue]
  · rename_i hget
    cases h
    simp [hget, entries]
  · cases h

/-- A mapping whose learner's section is a mapping, null or missing is loaded exactly if the system
takes the variables of the file of bindings, what is configured can be read, and the other two
sections are accepted. -/
theorem load_eq_ok_iff (options : Section) (env : Variables) (bindings : Option String) {w : Files}
    {path : Option String} {es inner : List (Value × Value)} {c : Configuration}
    (hdoc : document w path = .ok (.dict es))
    (hkeys : ∀ e ∈ es, e.1.text?.isSome = true) (hlearner : learnerEntries? es = some inner) :
    load env bindings w path = .ok c ↔
      env.Loadable bindings ∧
      Field.variant.readIn (Field.variant.configured (.gather options env bindings inner)) =
        some c.learner.variant ∧
      Field.aggressiveness.readIn
        (Field.aggressiveness.configured (.gather options env bindings inner)) =
          some c.learner.aggressiveness ∧
      Field.epsilon.readIn (Field.epsilon.configured (.gather options env bindings inner)) =
        some c.learner.epsilon ∧
      logOf es = .ok c.log ∧ tableOf es = .ok c.table := by
  have hentries := entries_of_learnerEntries? hlearner
  have hmergeable : MergeableEntries es := ⟨exists_entries_iff.1 ⟨inner, hentries⟩, hkeys⟩
  rw [load_eq, hdoc, ← Variables.exists_setMissing_bound_iff]
  cases hv : env.setMissing (env.bound bindings).entries with
  | error e => simp [bind, Except.bind, Except.mapError]
  | ok v =>
    obtain ⟨learner, hlearner', heq⟩ := ofEntries_of_mergeable v hmergeable
    obtain rfl : inner = learner := Except.ok.inj (hentries.symm.trans hlearner')
    have hread {α : Type} {f : Field α} (hf : (f.variableName, f.entryName) ∈ overrides) :
        (Section.ofEntries (override v inner)).get? f.entryName =
          f.configured (.gather options env bindings inner) :=
      Field.get?_override_eq_configured hf (Variables.get?_of_setMissing_bound hv _) rfl
    rw [← hread (f := Field.variant) (by decide),
      ← hread (f := Field.aggressiveness) (by decide), ← hread (f := Field.epsilon) (by decide)]
    change ofEntries v es = .ok c ↔ _
    rw [heq, mapError_eq_ok_iff, ofSections_eq_ok_iff]
    simp [Field.variant, Field.aggressiveness, Field.epsilon]

end Configuration

/-! ## What the command line makes of it -/

namespace Command.Training

/-- What the command line says, as entries of the learner's section. -/
def options (t : Training) : Section :=
  (t.variant.map fun name => ("variant", .text name)).toList ++
    (t.aggressiveness.map fun c => ("aggressiveness", .float c)).toList ++
    (t.epsilon.map fun e => ("epsilon", .float e)).toList

theorem get?_options_variant (t : Training) :
    t.options.get? "variant" = t.variant.map .text := by
  unfold options Section.get?
  cases t.variant <;> cases t.aggressiveness <;> cases t.epsilon <;> rfl

theorem get?_options_aggressiveness (t : Training) :
    t.options.get? "aggressiveness" = t.aggressiveness.map .float := by
  unfold options Section.get?
  cases t.variant <;> cases t.aggressiveness <;> cases t.epsilon <;> rfl

theorem get?_options_epsilon (t : Training) : t.options.get? "epsilon" = t.epsilon.map .float := by
  unfold options Section.get?
  cases t.variant <;> cases t.aggressiveness <;> cases t.epsilon <;> rfl

/-- The variant that is named counts, or else the one that is configured. -/
def variantOver (t : Training) (configured : Variant) : Except UnknownVariant Variant :=
  match t.variant with
  | some name => Variant.resolve (.text name)
  | none => .ok configured

theorem settings_eq (t : Training) (configured : Settings Float) :
    t.settings configured = (t.variantOver configured.variant).map fun variant =>
      ⟨variant, t.aggressiveness.or configured.aggressiveness,
        t.epsilon.getD configured.epsilon⟩ := by
  unfold settings variantOver
  cases t.variant with
  | none => rfl
  | some name => cases hname : Variant.resolve (.text name) <;> simp [hname] <;> rfl

/-- The settings that count are those of the configuration with the command line on top. -/
theorem settings_of_settles {t : Training} {s : Sources} {configured x : Settings Float}
    (hoptions : s.options = t.options)
    (hvariant : Field.variant.readIn (Field.variant.configured s) = some configured.variant)
    (haggressiveness : Field.aggressiveness.readIn (Field.aggressiveness.configured s) =
      some configured.aggressiveness)
    (hepsilon : Field.epsilon.readIn (Field.epsilon.configured s) = some configured.epsilon)
    (hx : s.Settles x) : t.settings configured = .ok x := by
  have hv := (Field.value_eq_elim (by rw [hoptions]; exact t.get?_options_variant)
    hvariant).symm.trans hx.variant
  have hc := (Field.value_eq_elim (by rw [hoptions]; exact t.get?_options_aggressiveness)
    haggressiveness).symm.trans hx.aggressiveness
  have he := (Field.value_eq_elim (by rw [hoptions]; exact t.get?_options_epsilon)
    hepsilon).symm.trans hx.epsilon
  have hvs : t.variantOver configured.variant = .ok x.variant := by
    unfold variantOver
    cases hname : t.variant with
    | none => simpa [hname] using hv
    | some name =>
      rw [hname] at hv
      cases hresolved : Variant.resolve (.text name) <;>
        simp_all [Field.variant, Except.toOption]
  have hcs : t.aggressiveness.or configured.aggressiveness = x.aggressiveness := by
    cases h : t.aggressiveness with
    | none => simpa [h] using hc
    | some c =>
      rw [h] at hc
      exact Option.some.inj hc
  have hes : t.epsilon.getD configured.epsilon = x.epsilon := by
    cases h : t.epsilon with
    | none => simpa [h] using he
    | some e =>
      rw [h] at he
      exact Option.some.inj he
  rw [settings_eq, hvs, hcs, hes]
  rfl

/-- The sources of the settings to train with. -/
def sources (t : Training) (w : World) (inner : List (Value × Value)) : Sources :=
  .gather t.options w.environment w.bindings inner

end Command.Training

theorem Session.aggressiveness_of_open {settings : Settings Float} {s : OpenSession}
    (h : Session.open settings = .ok s) :
    s.aggressiveness = (settings.aggressiveness.map .real).getD
      (settings.variant.defaultAggressiveness Operand) :=
  aggressiveness_of_create (create_of_open h)

namespace Command.Training

/-- Where each setting of the learner can be read, training goes on with the first word on each:
that of the command line, of a variable that is set to something, of the file of bindings where
the variable is not set at all, and of the document, in this order.  The configuration is loaded
exactly if the system takes the variables of the file and the other two sections are accepted,
which are those of the document; and the session that is opened has these settings, with the
aggressiveness of the variant that counts where nobody says another. -/
theorem settings_precedence {t : Training} {w : World} {p : Progress}
    {es inner : List (Value × Value)}
    (hdoc : document p.files (t.config.map Path.display) = .ok (.dict es))
    (hkeys : ∀ e ∈ es, e.1.text?.isSome = true) (hlearner : learnerEntries? es = some inner)
    (hvalid : (t.sources w inner).Valid) :
    ∃ x, (t.sources w inner).Settles x ∧
      ((∃ c, load w.environment w.bindings p.files (t.config.map Path.display) = .ok c) ↔
        w.environment.Loadable w.bindings ∧ (∃ log, logOf es = .ok log) ∧
          ∃ table, tableOf es = .ok table) ∧
      (∀ c, load w.environment w.bindings p.files (t.config.map Path.display) = .ok c →
        t.settings c.learner = .ok x ∧ logOf es = .ok c.log ∧ tableOf es = .ok c.table) ∧
      ∀ pipeline examples p', (t.prepare w).run.run p = (.ok (pipeline, examples), p') →
        pipeline.session.settings = x.operands ∧
          pipeline.session.aggressiveness = (x.aggressiveness.map .real).getD
            (x.variant.defaultAggressiveness Operand) := by
  obtain ⟨x, hx⟩ := Sources.exists_settles hvalid
  have hload {c : Configuration} :=
    load_eq_ok_iff (c := c) t.options w.environment w.bindings hdoc hkeys hlearner
  have hsettings {c : Configuration}
      (hc : load w.environment w.bindings p.files (t.config.map Path.display) = .ok c) :
      t.settings c.learner = .ok x ∧ logOf es = .ok c.log ∧ tableOf es = .ok c.table := by
    obtain ⟨-, hv, ha, he, hlog, htable⟩ := hload.1 hc
    exact ⟨settings_of_settles rfl hv ha he hx, hlog, htable⟩
  refine ⟨x, hx, ⟨?_, ?_⟩, fun c hc => hsettings hc, ?_⟩
  · rintro ⟨c, hc⟩
    obtain ⟨hloadable, -, -, -, hlog, htable⟩ := hload.1 hc
    exact ⟨hloadable, ⟨_, hlog⟩, _, htable⟩
  · rintro ⟨hloadable, ⟨log, hlog⟩, table, htable⟩
    obtain ⟨v, hv⟩ := Option.isSome_iff_exists.1 hvalid.variant.2
    obtain ⟨a, ha⟩ := Option.isSome_iff_exists.1 hvalid.aggressiveness.2
    obtain ⟨e, he⟩ := Option.isSome_iff_exists.1 hvalid.epsilon.2
    exact ⟨⟨log, ⟨v, a, e⟩, table⟩, hload.2 ⟨hloadable, hv, ha, he, hlog, htable⟩⟩
  · intro pipeline examples p' hprepare
    obtain ⟨c, settings, session, hc, hsettled, hopen, rfl⟩ := prepare_eq_ok hprepare
    obtain rfl : x = settings := Except.ok.inj ((hsettings hc).1.symm.trans hsettled)
    exact ⟨(Session.inSystem_of_open hopen).2.1, Session.aggressiveness_of_open hopen⟩

/-- Training with one option, in an environment with an empty variable, with three bindings in the
file and the packaged document: the option counts for the variant, the file for the
aggressiveness, and the document for the margin, for which the empty variable hides what the file
says. -/
theorem settings_precedence_hidden :
    let t : Training := ⟨.ofText "data.csv", .ofText "weights.csv", some "PA1a", none, none, none⟩
    let w : World := ⟨⟨[("PA_EPSILON", "")]⟩,
      some "PA_VARIANT=PA2\nPA_AGGRESSIVENESS=0.5\nPA_EPSILON=7\n", .ofList [],
      .still (Number.zero false)⟩
    ∃ c x, load w.environment w.bindings w.files none = .ok c ∧ t.settings c.learner = .ok x ∧
      x.variant = .pa1a ∧ x.aggressiveness = Number.settingFloat? "0.5" ∧
      x.epsilon = Settings.defaultEpsilon := by
  have hbound : Variables.bound ⟨[("PA_EPSILON", "")]⟩
      (some "PA_VARIANT=PA2\nPA_AGGRESSIVENESS=0.5\nPA_EPSILON=7\n") =
    ⟨[("PA_VARIANT", some "PA2"), ("PA_AGGRESSIVENESS", some "0.5"),
      ("PA_EPSILON", some "7")]⟩ := by decide +kernel
  have hloadable : Variables.Loadable ⟨[("PA_EPSILON", "")]⟩
      (some "PA_VARIANT=PA2\nPA_AGGRESSIVENESS=0.5\nPA_EPSILON=7\n") := by decide +kernel
  have hnumeral : (Number.settingFloat? "0.5").isSome = true := by decide +kernel
  intro t w
  have hsources : t.sources w [(.text "variant", .text "PA1"),
      (.text "epsilon", .float Settings.defaultEpsilon)] =
    ⟨[("variant", .text "PA1a")], ⟨[("PA_EPSILON", "")]⟩, ⟨[("PA_VARIANT", some "PA2"),
        ("PA_AGGRESSIVENESS", some "0.5"), ("PA_EPSILON", some "7")]⟩,
      [("variant", .text "PA1"), ("epsilon", .float Settings.defaultEpsilon)]⟩ := by
    rw [sources, Sources.gather, hbound]
    rfl
  have hvalid : (t.sources w [(.text "variant", .text "PA1"),
      (.text "epsilon", .float Settings.defaultEpsilon)]).Valid := by
    rw [hsources]
    exact ⟨by decide +kernel, by decide +kernel, by decide +kernel⟩
  obtain ⟨x, hx, hload, hsettings, -⟩ := settings_precedence (t := t) (w := w)
    (p := ⟨w.files, "", none, []⟩) (by rfl) (by decide) (by rfl) hvalid
  obtain ⟨c, hc⟩ := hload.2 ⟨hloadable, ⟨_, rfl⟩, _, rfl⟩
  obtain ⟨y, hy⟩ := Option.isSome_iff_exists.1 hnumeral
  rw [hsources] at hx
  refine ⟨c, x, hc, (hsettings c hc).1, (Option.some.inj hx.variant).symm, ?_,
    (Option.some.inj hx.epsilon).symm⟩
  have hread : Entry.number? (.text "0.5") = .ok (some y) := by
    simp [Entry.number?, Entry.number, Value.text?, hy, Except.map]
  have haggressiveness : (Entry.number? (.text "0.5")).toOption = some x.aggressiveness :=
    hx.aggressiveness
  rw [hread] at haggressiveness
  rw [hy]
  exact (Option.some.inj haggressiveness).symm

end Command.Training

end PassiveAggressive
