import PassiveAggressive.Proofs.Session.Replay

/-!
# The books of a session

A session keeps books on what it has seen: how many examples came to what, how many ids
have a weight, how many targets went into the spread.  The books agree with each other
whatever is done to the session, in whatever order, and whether or not it fails.

An example is entered as processed before it is known what it comes to, so the sum only
comes out right because nothing can fail in between.  That is what `InSystem.books_step`
says of one step: either the counters are as they were, or one example has been entered
under exactly one status, and then its target has been taken into the spread.  The spread
may have seen more targets than examples were processed, because an example can fail
after its target has been counted, but never fewer.

* `InSystem.books_step`, `InSystem.keys_step`: what a step does to the books and to the ids.
* `Books`: books that are in order, which every call preserves (`Books.call`).
* `Continues`: what no call takes back, from one state of a session to a later one.
* `books_after`: the books after any calls.
-/

namespace PassiveAggressive

/-! ## Counters -/

namespace Counters

/-- Every processed example is entered under one status. -/
def Balanced (c : Counters) : Prop := c.processed = c.updated + c.noUpdate + c.skipped

theorem balanced_none : Counters.none.Balanced := rfl

theorem Balanced.noting {c : Counters} (h : c.Balanced) (status : Status) :
    (c.noting status).Balanced := by
  unfold Balanced at h ⊢
  cases status with
  | updated | noUpdate | skipped =>
    simp only [Counters.noting, h]
    omega

/-- No counter is smaller. -/
instance : LE Counters where
  le a b := a.processed ≤ b.processed ∧ a.updated ≤ b.updated ∧ a.noUpdate ≤ b.noUpdate ∧
    a.skipped ≤ b.skipped

theorem le_rfl (c : Counters) : c ≤ c := ⟨Nat.le_refl _, Nat.le_refl _, Nat.le_refl _, Nat.le_refl _⟩

theorem le_trans {a b c : Counters} (hab : a ≤ b) (hbc : b ≤ c) : a ≤ c := by
  obtain ⟨hprocessed, hupdated, hnoUpdate, hskipped⟩ := hab
  obtain ⟨hprocessed', hupdated', hnoUpdate', hskipped'⟩ := hbc
  exact ⟨hprocessed.trans hprocessed', hupdated.trans hupdated', hnoUpdate.trans hnoUpdate',
    hskipped.trans hskipped'⟩

theorem le_noting (c : Counters) (status : Status) : c ≤ c.noting status := by
  cases status with
  | updated => exact ⟨Nat.le_succ _, Nat.le_succ _, Nat.le_refl _, Nat.le_refl _⟩
  | noUpdate => exact ⟨Nat.le_succ _, Nat.le_refl _, Nat.le_succ _, Nat.le_refl _⟩
  | skipped => exact ⟨Nat.le_succ _, Nat.le_refl _, Nat.le_refl _, Nat.le_succ _⟩

@[simp] theorem processed_noting (c : Counters) (status : Status) :
    (c.noting status).processed = c.processed + 1 := by
  cases status <;> rfl

end Counters

open Scalar

variable {ι α F : Type} [Key ι]

/-! ## Ids -/

theorem WeightMap.prefix_fileKey (known : List ι) (id : ι) : known <+: fileKey known id := by
  unfold fileKey
  split
  · exact List.prefix_rfl
  · exact List.prefix_append _ _

theorem WeightMap.prefix_foldl_fileKey (ids known : List ι) : known <+: ids.foldl fileKey known := by
  induction ids generalizing known with
  | nil => exact List.prefix_rfl
  | cons id ids ih => exact (prefix_fileKey known id).trans (ih (fileKey known id))

namespace Session

/-! ## One step -/

section General

variable [Arithmetic α]

/-- What no call takes back: the counters only grow, ids stay where they are, and what the learner
was told stays the same. -/
structure Continues (s s' : Session ι α) : Prop where
  settings : s'.settings = s.settings
  aggressiveness : s'.aggressiveness = s.aggressiveness
  counters : s.counters ≤ s'.counters
  keys : s.weights.keys <+: s'.weights.keys

omit [Key ι] [Arithmetic α] in
theorem Continues.rfl (s : Session ι α) : Continues s s :=
  ⟨.refl _, .refl _, Counters.le_rfl _, List.prefix_rfl⟩

omit [Key ι] [Arithmetic α] in
theorem Continues.trans {s s' s'' : Session ι α} (h : Continues s s') (h' : Continues s' s'') :
    Continues s s'' where
  settings := h'.settings.trans h.settings
  aggressiveness := h'.aggressiveness.trans h.aggressiveness
  counters := Counters.le_trans h.counters h'.counters
  keys := h.keys.trans h'.keys

theorem distinctKeys_moveAlong {m : WeightMap ι α} (hm : m.DistinctKeys) (coeff : α)
    (x : Features ι α) : (moveAlong m coeff x).1.DistinctKeys := by
  induction x generalizing m with
  | nil => exact hm
  | cons f fs ih =>
    rw [moveAlong]
    split
    · exact hm
    · rename_i moved hmoved
      obtain ⟨delta, -, hadd⟩ := bind_eq_ok_iff.1 hmoved
      exact ih ((WeightMap.keys_add hadd).2 hm)

theorem distinctKeys_step {s : Session ι α} (hs : s.weights.DistinctKeys) (x : Features ι α)
    (target : α) : (s.step x target).1.weights.DistinctKeys := by
  have hsteps := stepsTo_step s x target
  generalize s.step x target = result at hsteps
  obtain ⟨s', r⟩ := result
  cases hsteps with
  | @stuck _ _ _ _ coeff _ _ hsized hfinite h | @updated _ _ _ _ coeff _ hsized hfinite h =>
    have hmoved := distinctKeys_moveAlong hs coeff x
    rw [h] at hmoved
    exact hmoved
  | _ => exact hs

theorem distinctKeys_call {s : Session ι α} (hs : s.weights.DistinctKeys) (c : Call ι α) :
    (s.call c).weights.DistinctKeys := by
  cases c with
  | step x target => exact distinctKeys_step hs x target
  | predict | weights | finalize => exact hs
  | adjust id delta =>
    simp only [call, adjust]
    cases hadd : s.weights.add id delta with
    | error f => exact hs
    | ok weights => exact (WeightMap.keys_add hadd).2 hs

/-- **The ids of a session are kept apart**, whatever is done with it. -/
theorem distinctKeys_after {s : Session ι α} (hs : s.weights.DistinctKeys)
    (calls : List (Call ι α)) : (s.after calls).weights.DistinctKeys :=
  after_induction (P := fun s' => s'.weights.DistinctKeys) (fun _ c h => distinctKeys_call h c) hs
    calls

end General

section InSystem

variable [NumberSystem F] {s : Session ι (Scalar F)}

theorem InSystem.keys_step (hs : s.InSystem) (x : Features ι (Scalar F)) (target : Scalar F) :
    s.weights.keys <+: (s.step x target).1.weights.keys := by
  have hweights := hs.weights_step x target
  split at hweights
  · rw [(WeightMap.keys_addAlong hweights).1]
    exact WeightMap.prefix_foldl_fileKey _ _
  · rw [hweights]

variable [LawfulNumberSystem F]

/-- **What a step does to the books.**  Either the counters are as they were, or the example has
been entered under one status and its target has been taken into the spread. -/
theorem InSystem.books_step (hs : s.InSystem) (x : Features ι (Scalar F)) (target : Scalar F) :
    ((s.step x target).1.counters = s.counters ∧
      ((s.step x target).1.spread = s.spread ∨
        (s.step x target).1.spread = s.spreadAfter target)) ∨
    ∃ status, (s.step x target).1.counters = s.counters.noting status ∧
      (s.step x target).1.spread = s.spreadAfter target := by
  cases hresult : (s.step x target).2 with
  | ok outcome =>
    have hsteps := stepsTo_step s x target
    rw [hresult] at hsteps
    generalize (s.step x target).1 = s' at hsteps
    cases hsteps with
    | noUpdate => exact .inr ⟨.noUpdate, rfl, rfl⟩
    | skipped => exact .inr ⟨.skipped, rfl, rfl⟩
    | updated => exact .inr ⟨.updated, rfl, rfl⟩
  | error e =>
    cases e with
    | finalized =>
      have hsteps := stepsTo_step s x target
      rw [hresult] at hsteps
      generalize (s.step x target).1 = s' at hsteps
      cases hsteps with
      | finalized => exact .inl ⟨rfl, .inl rfl⟩
    | fault f =>
      obtain ⟨-, ⟨-, hstep⟩ | ⟨-, -, -, hstep⟩⟩ := hs.step_of_fault hresult
      · exact .inl (by rw [hstep]; exact ⟨rfl, .inl rfl⟩)
      · exact .inl (by rw [hstep]; exact ⟨rfl, .inr rfl⟩)

/-! ## Any call -/

/-- Books that are in order. -/
structure Books (s : Session ι (Scalar F)) : Prop where
  system : s.InSystem
  balanced : s.counters.Balanced
  distinct : s.weights.DistinctKeys
  /-- The spread has seen every example that was processed. -/
  tracked : ∀ t, s.spread = some t → s.counters.processed ≤ t.count

omit [LawfulNumberSystem F] in
theorem Books.tracked_measuring (hs : s.Books) {target : Scalar F} {t : Spread (Scalar F)}
    (ht : s.spreadAfter target = some t) : s.counters.processed + 1 ≤ t.count := by
  obtain ⟨t', ht', rfl⟩ := Option.map_eq_some_iff.1 ht
  rw [Spread.count_observe]
  exact Nat.succ_le_succ (hs.tracked t' ht')

theorem Books.step (hs : s.Books) (x : Features ι (Scalar F)) (target : Scalar F) :
    (s.step x target).1.Books ∧ Continues s (s.step x target).1 := by
  have hkeys := hs.system.keys_step x target
  have hdistinct := distinctKeys_step hs.distinct x target
  obtain ⟨hsettings, haggressive⟩ := settings_step s x target
  have hsys := (hs.system.step x target).1
  rcases hs.system.books_step x target with ⟨hcounters, hspread⟩ | ⟨status, hcounters, hspread⟩
  · refine ⟨⟨hsys, hcounters ▸ hs.balanced, hdistinct, fun t ht => ?_⟩,
      ⟨hsettings, haggressive, hcounters ▸ Counters.le_rfl _, hkeys⟩⟩
    rw [hcounters]
    rcases hspread with hspread | hspread
    · exact hs.tracked t (hspread ▸ ht)
    · exact (Nat.le_succ _).trans (hs.tracked_measuring (hspread ▸ ht))
  · refine ⟨⟨hsys, hcounters ▸ hs.balanced.noting status, hdistinct, fun t ht => ?_⟩,
      ⟨hsettings, haggressive, hcounters ▸ Counters.le_noting _ _, hkeys⟩⟩
    rw [hcounters, Counters.processed_noting]
    exact hs.tracked_measuring (hspread ▸ ht)

/-- **Every call leaves the books in order** and takes nothing back. -/
theorem Books.call (hs : s.Books) (c : Call ι (Scalar F)) :
    (s.call c).Books ∧ Continues s (s.call c) := by
  cases c with
  | step x target => exact hs.step x target
  | predict | weights => exact ⟨hs, .rfl s⟩
  | adjust id delta =>
    simp only [Session.call, adjust]
    cases hadd : s.weights.add id delta with
    | error f => exact ⟨hs, .rfl s⟩
    | ok weights =>
      obtain ⟨hkeys, hdistinct⟩ := WeightMap.keys_add hadd
      refine ⟨⟨hs.system.withWeights (hs.system.weights.add hadd) _ _, hs.balanced,
        hdistinct hs.distinct, hs.tracked⟩, ⟨rfl, rfl, Counters.le_rfl _, ?_⟩⟩
      change _ <+: weights.keys
      rw [hkeys]
      exact WeightMap.prefix_fileKey _ _
  | finalize =>
    exact ⟨⟨hs.system.withWeights hs.system.weights _ _, hs.balanced, hs.distinct, hs.tracked⟩,
      ⟨rfl, rfl, Counters.le_rfl _, List.prefix_rfl⟩⟩

theorem Books.after (hs : s.Books) (calls : List (Call ι (Scalar F))) :
    (s.after calls).Books ∧ Continues s (s.after calls) :=
  after_induction (P := fun s' => s'.Books ∧ Continues s s')
    (fun _ c h => (h.1.call c).imp_right h.2.trans) ⟨hs, .rfl s⟩ calls

omit [LawfulNumberSystem F] in
theorem books_of_create {settings : Settings F} (hs : create (settings.map .real) = .ok s) :
    s.Books := by
  refine ⟨(inSystem_of_create hs).1, ?_, ?_, ?_⟩
  · rw [eq_of_create hs]
    exact Counters.balanced_none
  · rw [eq_of_create hs]
    exact WeightMap.distinctKeys_empty
  · rw [eq_of_create hs]
    exact fun t _ => Nat.zero_le _

/-- **The books of a session**, after any calls in any order, whether or not they failed.  Every
processed example is entered under one status; the number of features is the number of ids with a
weight, no two of which are the same key; whatever is done later, no counter decreases and no id is
removed; the session is finalized if that has been called for, and else idle; the settings and the
aggressiveness are those it was created with, and the aggressiveness is greater than zero; and there
is a spread exactly in an adaptive session, and it has seen every processed example. -/
theorem books_after {settings : Settings F} (hs : create (settings.map .real) = .ok s)
    (calls : List (Call ι (Scalar F))) :
    let s' := s.after calls
    s'.counters.processed = s'.counters.updated + s'.counters.noUpdate + s'.counters.skipped ∧
    s'.counts.lookup "features" = some s'.weights.keys.length ∧ s'.weights.DistinctKeys ∧
    (∀ more, s'.counters ≤ (s.after (calls ++ more)).counters ∧
      s'.weights.keys <+: (s.after (calls ++ more)).weights.keys) ∧
    (s'.phase = .finalized ↔ .finalize ∈ calls) ∧ (s'.phase = .idle ↔ .finalize ∉ calls) ∧
    s'.settings = settings.map .real ∧ s'.aggressiveness = s.aggressiveness ∧
    (∃ c, s'.aggressiveness = .real c ∧ NumberSystem.lt NumberSystem.zero c = true) ∧
    s'.spread.isSome = settings.variant.adaptive ∧
    ∀ t, s'.spread = some t → s'.counters.processed ≤ t.count := by
  obtain ⟨hbooks, hcontinues⟩ := (books_of_create hs).after calls
  have hsettings : (s.after calls).settings = settings.map .real :=
    hcontinues.settings.trans (inSystem_of_create hs).2.1
  obtain ⟨hfinalized, hidle⟩ := phase_after (inSystem_of_create hs).2.2 calls
  refine ⟨hbooks.balanced, ?_, hbooks.distinct, fun more => ?_, hfinalized, hidle, hsettings,
    hcontinues.aggressiveness, hbooks.system.aggressive, ?_, hbooks.tracked⟩
  · rw [WeightMap.length_keys]
    rfl
  · have hmore := (hbooks.after more).2
    rw [after, after, ← List.foldl_append] at hmore
    exact ⟨hmore.counters, hmore.keys⟩
  · rw [hbooks.system.adaptive, hsettings]
    rfl

end InSystem

/-- Calls of every kind on an adaptive session: an example that fails after its target has been
counted, a weight that is added to directly, and an example that comes too late. -/
def haphazard : List (Call Value Operand) :=
  [.step [⟨.int 1, .real (Number.ofInt 1)⟩] (.foreign .text),
    .step [⟨.int 1, .real (Number.ofInt 1)⟩, ⟨.text "b", .int 2⟩] (.int 3),
    .adjust (.bool true) (.int 2),
    .adjust (.list []) (.int 2),
    .predict [⟨.text "c", .foreign .null⟩],
    .weights,
    .finalize,
    .step [⟨.text "c", .int 1⟩] (.int 1)]

/-- The books after these calls: two targets were counted, one example was processed, and two ids
have a weight. -/
theorem books_after_haphazard :
    Session.open ⟨.pa1a, none, Number.zero false⟩ = .ok (untrained .pa1a) ∧
    ((untrained .pa1a).after haphazard).phase = .finalized ∧
    ((untrained .pa1a).after haphazard).counts.lookup "features" = some 2 ∧
    ((untrained .pa1a).after haphazard).counters = ⟨1, 1, 0, 0⟩ ∧
    ((untrained .pa1a).after haphazard).spread.map Spread.count = some 2 := by
  have hs : create (Settings.map Scalar.real ⟨.pa1a, none, Number.zero false⟩) =
      .ok (untrained .pa1a) := create_of_open (open_untrained .pa1a)
  obtain ⟨-, hfeatures, -, -, hphase, -⟩ := books_after hs haphazard
  refine ⟨open_untrained .pa1a, hphase.2 (by simp [haphazard]), ?_, by decide +kernel,
    by decide +kernel⟩
  rw [hfeatures]
  decide +kernel

end Session
end PassiveAggressive
