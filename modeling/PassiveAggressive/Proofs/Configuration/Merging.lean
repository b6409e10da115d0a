import PassiveAggressive.Configuration.Document
import PassiveAggressive.Proofs.Environment.Bindings
import PassiveAggressive.Proofs.Weights.Scoring

/-!
# Faults of merging

A document is merged with the environment before it is checked, and what cannot be merged
never gets to the check.  Here it is said which documents can be merged (`Mergeable`): a mapping
whose keys are texts and whose learner's section holds entries, or a document that is false as a
whole and so configures nothing.  For these, and only for these, every fault is a finding of the
check (`load_isVerdict_iff`).

A section that is a number, a text or a sequence of anything but pairs is none of the check's
concern, then; that the sections on the log and on the table may be anything, and are reported
where they are no mappings, shows that this is not what was meant.
-/

namespace PassiveAggressive
namespace Configuration

variable {env : Variables} {bindings : Option String} {w : Files}

/-! ## Values that hold entries -/

/-- The value is a pair whose first part can be a key. -/
def IsPair (v : Value) : Prop :=
  ∃ key given, v.items = .ok [key, given] ∧ Key.check key = .ok ()

/-- The value holds entries: it is a mapping, false, or a sequence of pairs. -/
def HoldsEntries : Value → Prop
  | .dict _ => True
  | v => v.isTrue = true → ∃ vs, v.items = .ok vs ∧ ∀ x ∈ vs, IsPair x

/-- The items of a sequence are filed exactly if each is a pair. -/
theorem exists_pairEntries_iff {index : Nat} {before : List (Value × Value)} {vs : List Value} :
    (∃ es, pairEntries index before vs = .ok es) ↔ ∀ x ∈ vs, IsPair x := by
  induction vs generalizing index before with
  | nil => simp [pairEntries]
  | cons v vs ih =>
    rw [List.forall_mem_cons, pairEntries]
    split
    · rename_i hitems
      simp [IsPair, hitems]
    · rename_i key given hitems
      split
      · rename_i hkey
        simp [IsPair, hitems, hkey]
      · rename_i hkey
        rw [ih]
        simp [IsPair, hitems, hkey]
    · rename_i parts hnot hitems
      have : ¬IsPair v := by
        rintro ⟨key, given, h, -⟩
        exact hnot key given (Except.ok.inj (hitems.symm.trans h))
      simp [this]

theorem pairEntries_ne_rejected {index : Nat} {before : List (Value × Value)} {vs : List Value}
    (r : Rejection) : pairEntries index before vs ≠ .error (.rejected r) := by
  induction vs generalizing index before with
  | nil => simp [pairEntries]
  | cons v vs ih =>
    rw [pairEntries]
    split
    · simp
    · split
      · simp
      · exact ih
    · simp

theorem holdsEntries_iff {v : Value} (h : ∀ es, v ≠ .dict es) :
    HoldsEntries v ↔
      (v.isTrue = true → ∃ vs, v.items = .ok vs ∧ ∀ x ∈ vs, IsPair x) := by
  unfold HoldsEntries
  split
  · exact absurd rfl (h _)
  · exact Iff.rfl

theorem exists_entries_iff {v : Value} : (∃ es, entries v = .ok es) ↔ HoldsEntries v := by
  unfold entries
  split
  · exact iff_of_true ⟨_, rfl⟩ trivial
  · rename_i hdict
    rw [holdsEntries_iff hdict]
    cases v.isTrue with
    | false => exact iff_of_true ⟨_, rfl⟩ nofun
    | true =>
      cases v.items with
      | error f => simp
      | ok vs => simp [exists_pairEntries_iff]

instance : DecidablePred HoldsEntries := fun v =>
  decidable_of_iff ((entries v).isOk = true) <| by
    rw [← exists_entries_iff]
    cases entries v <;> simp [Except.isOk, Except.toBool]

theorem entries_ne_rejected {v : Value} (r : Rejection) : entries v ≠ .error (.rejected r) := by
  unfold entries
  split
  · simp
  · split
    · split
      · exact pairEntries_ne_rejected r
      · simp
    · simp

/-! ## Documents -/

/-- The entries of a mapping can be merged: the learner's section holds entries, and every key is a
text. -/
def MergeableEntries (es : List (Value × Value)) : Prop :=
  HoldsEntries (((Section.ofEntries es).get? "training").getD .null) ∧
    ∀ e ∈ es, e.1.text?.isSome = true

instance (es : List (Value × Value)) : Decidable (MergeableEntries es) :=
  inferInstanceAs (Decidable (_ ∧ _))

/-- The document can be merged with the environment. -/
def Mergeable : Value → Prop
  | .dict es => MergeableEntries es
  | v => v.isTrue = false

instance : DecidablePred Mergeable
  | .dict es => inferInstanceAs (Decidable (MergeableEntries es))
  | .null | .bool _ | .int _ | .float _ | .text _ | .list _ | .tuple _ | .entry _ _ | .array _
  | .variant _ | .moment _ | .set _ => inferInstanceAs (Decidable (_ = _))

/-- The outcome is the check's: a configuration, or why it is not accepted. -/
def IsVerdict (r : Except ConfigurationFault Configuration) : Prop :=
  (∃ c, r = .ok c) ∨ ∃ why, r = .error (.rejected why)

theorem isVerdict_mapError (r : Except Rejection Configuration) :
    IsVerdict (r.mapError .rejected) := by
  cases r with
  | error why => exact .inr ⟨why, rfl⟩
  | ok c => exact .inl ⟨c, rfl⟩

theorem ofEntries_of_mergeable (env : Variables) {es : List (Value × Value)}
    (h : MergeableEntries es) :
    ∃ learner, entries (((Section.ofEntries es).get? "training").getD .null) = .ok learner ∧
      ofEntries env es =
        (ofSections (.ofEntries es) (.ofEntries (override env learner))).mapError .rejected := by
  obtain ⟨learner, hlearner⟩ := exists_entries_iff.2 h.1
  have hkeys : (es.any fun e => e.1.text?.isNone) = false := by
    rw [List.any_eq_false]
    intro e he
    simpa using Option.isSome_iff_ne_none.1 (h.2 e he)
  refine ⟨learner, hlearner, ?_⟩
  simp [ofEntries, hlearner, hkeys, bind, Except.bind]

theorem isVerdict_ofEntries_iff {es : List (Value × Value)} :
    IsVerdict (ofEntries env es) ↔ MergeableEntries es := by
  refine ⟨fun h => ?_, fun h => ?_⟩
  · cases hlearner : entries (((Section.ofEntries es).get? "training").getD .null) with
    | error e =>
      have hfault : ofEntries env es = .error e := by
        simp [ofEntries, hlearner, bind, Except.bind]
      obtain ⟨c, hc⟩ | ⟨why, hwhy⟩ := h
      · cases hfault.symm.trans hc
      · rw [Except.error.inj (hfault.symm.trans hwhy)] at hlearner
        exact absurd hlearner (entries_ne_rejected why)
    | ok learner =>
      refine ⟨exists_entries_iff.1 ⟨learner, hlearner⟩, fun e he => ?_⟩
      by_contra hkey
      have hany : (es.any fun e => e.1.text?.isNone) = true :=
        List.any_eq_true.2 ⟨e, he, by simpa using hkey⟩
      have hfault : ofEntries env es = .error .nameNotText := by
        simp [ofEntries, hlearner, hany, bind, Except.bind]
      rw [hfault] at h
      obtain ⟨c, hc⟩ | ⟨why, hwhy⟩ := h
      · cases hc
      · cases hwhy
  · obtain ⟨learner, -, heq⟩ := ofEntries_of_mergeable env h
    rw [heq]
    exact isVerdict_mapError _

theorem mergeableEntries_nil : MergeableEntries [] := by
  simp [MergeableEntries, HoldsEntries, Section.ofEntries, Section.get?, Value.isTrue]

theorem mergeable_iff {doc : Value} (h : ∀ es, doc ≠ .dict es) :
    Mergeable doc ↔ doc.isTrue = false := by
  unfold Mergeable
  split
  · exact absurd rfl (h _)
  · exact Iff.rfl

theorem isVerdict_ofDocument_iff {doc : Value} :
    IsVerdict (ofDocument env doc) ↔ Mergeable doc := by
  unfold ofDocument
  split
  · exact isVerdict_ofEntries_iff
  · rename_i hdict
    rw [mergeable_iff hdict]
    cases doc.isTrue with
    | true => simp [IsVerdict]
    | false => exact iff_of_true (isVerdict_ofEntries_iff.2 mergeableEntries_nil) rfl

/-! ## Loading -/

theorem load_eq (path : Option String) :
    load env bindings w path = (do
      let env ← (env.setMissing (env.bound bindings).entries).mapError .binding
      let doc ← document w path
      ofDocument env doc) := by
  cases bindings with
  | none => rfl
  | some text => rfl

theorem document_of_read {path text : String} {doc : Value} (hpath : w.hasWritten path = true)
    (hread : w.read (.ofText path) = .ok text) (hdoc : Yaml.read text = .ok doc) :
    document w (some path) = .ok doc := by
  simp [document, hpath, hread, hdoc, Except.mapError]

theorem isVerdict_load_iff_of_document {path : Option String} {doc : Value}
    (hdoc : document w path = .ok doc) :
    IsVerdict (load env bindings w path) ↔ env.Loadable bindings ∧ Mergeable doc := by
  rw [load_eq, hdoc, ← Variables.exists_setMissing_bound_iff]
  cases henv : env.setMissing (env.bound bindings).entries with
  | error e => simp [IsVerdict, bind, Except.bind, Except.mapError]
  | ok v => simpa [bind, Except.bind, Except.mapError] using isVerdict_ofDocument_iff

/-- A file with a document is loaded, or refused by the check, exactly if the system takes the
variables of the file of bindings and the document can be merged.  Every other fault escapes the
check. -/
theorem load_isVerdict_iff {path text : String} {doc : Value} (hpath : w.hasWritten path = true)
    (hread : w.read (.ofText path) = .ok text) (hdoc : Yaml.read text = .ok doc) :
    IsVerdict (load env bindings w (some path)) ↔ env.Loadable bindings ∧ Mergeable doc :=
  isVerdict_load_iff_of_document (document_of_read hpath hread hdoc)

/-- A document that sets the margin gives a verdict, and the theorem says so. -/
theorem load_isVerdict_margin :
    ∃ doc, (Files.ofList [("c.yml", "training:\n  epsilon: 0.5\n")]).hasWritten "c.yml" = true ∧
      (Files.ofList [("c.yml", "training:\n  epsilon: 0.5\n")]).read (.ofText "c.yml") =
        .ok "training:\n  epsilon: 0.5\n" ∧
      Yaml.read "training:\n  epsilon: 0.5\n" = .ok doc ∧
      IsVerdict (load .empty (some "PA_EPSILON=0.25\n")
        (.ofList [("c.yml", "training:\n  epsilon: 0.5\n")]) (some "c.yml")) := by
  have hdocument : ∃ doc, Yaml.read "training:\n  epsilon: 0.5\n" = .ok doc ∧ Mergeable doc := by
    decide +kernel
  obtain ⟨doc, hdoc, hmergeable⟩ := hdocument
  have hpath : (Files.ofList [("c.yml", "training:\n  epsilon: 0.5\n")]).hasWritten "c.yml" =
    true := by decide +kernel
  have hread : (Files.ofList [("c.yml", "training:\n  epsilon: 0.5\n")]).read (.ofText "c.yml") =
    .ok "training:\n  epsilon: 0.5\n" := by decide +kernel
  have hloadable : Variables.Loadable .empty (some "PA_EPSILON=0.25\n") := by decide +kernel
  exact ⟨doc, hpath, hread, hdoc, (load_isVerdict_iff hpath hread hdoc).2 ⟨hloadable, hmergeable⟩⟩

/-- Not every document gives a verdict: a number for the learner's section does not. -/
theorem not_forall_load_isVerdict :
    ¬∀ (env : Variables) (bindings : Option String) (w : Files) (path text : String) (doc : Value),
      w.hasWritten path = true → w.read (.ofText path) = .ok text → Yaml.read text = .ok doc →
        IsVerdict (load env bindings w (some path)) := by
  intro h
  have hpath : (Files.ofList [("c.yml", "training: 5\n")]).hasWritten "c.yml" = true := by
    decide +kernel
  have hread : (Files.ofList [("c.yml", "training: 5\n")]).read (.ofText "c.yml") =
    .ok "training: 5\n" := by decide +kernel
  have hdocument : ∃ doc, Yaml.read "training: 5\n" = .ok doc ∧ ¬Mergeable doc := by
    decide +kernel
  obtain ⟨doc, hdoc, hmergeable⟩ := hdocument
  have hverdict := h .empty none _ _ _ _ hpath hread hdoc
  rw [isVerdict_load_iff_of_document (document_of_read hpath hread hdoc)] at hverdict
  exact hmergeable hverdict.2

end Configuration
end PassiveAggressive
