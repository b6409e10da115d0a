import PassiveAggressive.Learner.Pipeline
import PassiveAggressive.Proofs.Session.Step
import PassiveAggressive.Proofs.Weights.Filing
import PassiveAggressive.Proofs.Weights.Scoring

/-!
# Courses of a session

Two ways to say that something has happened to a session.  `after` runs through any
calls whatever, in any order, and is what "every reachable state" means.  `feed` runs
through a stream of examples, goes on after one that fails, and keeps what each of them
came to.  Both begin with a session that has been created (`eq_of_create`).

* `after_induction`, `feed_induction`: what every call, or every example, preserves is
  preserved by the whole course.
* `phase_after`: between calls a session is idle or finalized, never in the middle of a step.
* `feed_append`: a stream may be fed in pieces.
-/

namespace PassiveAggressive

/-- The same example with its numbers rewritten. -/
def Example.map {ι α β : Type} (g : α → β) (e : Example ι α) : Example ι β :=
  (e.1.map (Feature.map g), g e.2)

theorem Example.map_cons {ι α β : Type} (g : α → β) (x : Features ι α) (target : α)
    (rest : List (Example ι α)) :
    ((x, target) :: rest).map (Example.map g) =
      (x.map (Feature.map g), g target) :: rest.map (Example.map g) := rfl

theorem Session.eq_of_create {ι α : Type} [Arithmetic α] {settings : Settings α} {s : Session ι α}
    (h : Session.create settings = .ok s) :
    s = ⟨settings, s.aggressiveness, .empty,
      if settings.variant.adaptive then some .start else none, .idle, .none⟩ := by
  obtain ⟨c, -, hs⟩ := bind_eq_ok_iff.1 h
  cases hs
  rfl

theorem Session.aggressiveness_of_create {ι α : Type} [Arithmetic α] {settings : Settings α}
    {s : Session ι α} (h : Session.create settings = .ok s) :
    s.aggressiveness =
      settings.aggressiveness.getD (settings.variant.defaultAggressiveness α) := by
  obtain ⟨c, hc, hs⟩ := bind_eq_ok_iff.1 h
  cases hs
  unfold Settings.resolvedAggressiveness at hc
  dsimp only at hc
  split at hc
  · exact (Except.ok.inj hc).symm
  · cases hc

/-- What can be done with a session. -/
inductive Call (ι α : Type) where
  | step (x : Features ι α) (target : α)
  | predict (x : Features ι α)
  | weights
  | adjust (id : ι) (delta : α)
  | finalize

/-- The same call with its numbers rewritten. -/
def Call.map {ι α β : Type} (g : α → β) : Call ι α → Call ι β
  | .step x target => .step (x.map (Feature.map g)) (g target)
  | .predict x => .predict (x.map (Feature.map g))
  | .weights => .weights
  | .adjust id delta => .adjust id (g delta)
  | .finalize => .finalize

theorem Call.finalize_mem_map {ι α β : Type} (g : α → β) (calls : List (Call ι α)) :
    .finalize ∈ calls.map (Call.map g) ↔ .finalize ∈ calls := by
  constructor
  · intro h
    obtain ⟨c, hc, hmap⟩ := List.mem_map.1 h
    cases c with
    | finalize => exact hc
    | step | predict | weights | adjust => cases hmap
  · exact fun h => List.mem_map.2 ⟨.finalize, h, rfl⟩

namespace Session

variable {ι α : Type} [Key ι] [Arithmetic α]

/-- The session after a call, whatever the call came to. -/
def call (s : Session ι α) : Call ι α → Session ι α
  | .step x target => (s.step x target).1
  | .predict _ | .weights => s
  | .adjust id delta => (s.adjust id delta).1
  | .finalize => s.finalize.1

/-- The session after a list of calls. -/
def after (s : Session ι α) (calls : List (Call ι α)) : Session ι α := calls.foldl call s

theorem after_induction {P : Session ι α → Prop} (hcall : ∀ s c, P s → P (s.call c))
    {s : Session ι α} (hs : P s) (calls : List (Call ι α)) : P (s.after calls) := by
  induction calls generalizing s with
  | nil => exact hs
  | cons c calls ih => exact ih (hcall s c hs)

/-- No call changes what the learner was told, nor its aggressiveness. -/
theorem settings_after (s : Session ι α) (calls : List (Call ι α)) :
    (s.after calls).settings = s.settings ∧
      (s.after calls).aggressiveness = s.aggressiveness := by
  refine after_induction (P := fun s' => s'.settings = s.settings ∧
    s'.aggressiveness = s.aggressiveness) (fun s' c h => ?_) ⟨rfl, rfl⟩ calls
  cases c with
  | step x target =>
    obtain ⟨hsettings, haggressive⟩ := settings_step s' x target
    exact ⟨hsettings.trans h.1, haggressive.trans h.2⟩
  | predict | weights | finalize => exact h
  | adjust id delta =>
    simp only [call, adjust]
    split <;> exact h

theorem finalized_after {s : Session ι α} (hs : s.phase = .finalized) (calls : List (Call ι α)) :
    (s.after calls).phase = .finalized := by
  refine after_induction (P := fun s' => s'.phase = .finalized) (fun s' c h => ?_) hs calls
  cases c with
  | step x target => exact (phase_step_eq_finalized_iff s' x target).2 h
  | predict | weights => exact h
  | finalize => rfl
  | adjust id delta =>
    simp only [call, adjust]
    split <;> exact h

theorem idle_call {s : Session ι α} (hs : s.phase = .idle) {c : Call ι α} (hc : c ≠ .finalize) :
    (s.call c).phase = .idle := by
  cases c with
  | step x target => exact idle_step hs x target
  | predict | weights => exact hs
  | finalize => exact absurd rfl hc
  | adjust id delta =>
    simp only [call, adjust]
    split <;> exact hs

/-- **Between calls a session is idle or finalized**, and which of the two only depends on whether
it has been finalized: no call, however it ends, leaves the session in the middle of a step. -/
theorem phase_after {s : Session ι α} (hs : s.phase = .idle) (calls : List (Call ι α)) :
    ((s.after calls).phase = .finalized ↔ .finalize ∈ calls) ∧
      ((s.after calls).phase = .idle ↔ .finalize ∉ calls) := by
  induction calls generalizing s with
  | nil => simp [after, hs]
  | cons c calls ih =>
    by_cases hc : c = .finalize
    · subst hc
      have hfinalized : (s.after (.finalize :: calls)).phase = .finalized :=
        finalized_after (s := s.finalize.1) rfl calls
      simp [hfinalized]
    · have hmem : .finalize ∈ c :: calls ↔ .finalize ∈ calls := by simp [Ne.symm hc]
      rw [hmem]
      exact ih (idle_call hs hc)

theorem idle_after {s : Session ι α} (hs : s.phase = .idle) {calls : List (Call ι α)}
    (h : .finalize ∉ calls) : (s.after calls).phase = .idle :=
  (phase_after hs calls).2.2 h

/-- Feeds a stream of examples to a session, going on after one that fails: the session at the end
and what each example came to. -/
def feed (s : Session ι α) :
    List (Example ι α) → Session ι α × List (Except StepError (Outcome α))
  | [] => (s, [])
  | (x, target) :: rest =>
    let (s', r) := s.step x target
    let (s'', rs) := feed s' rest
    (s'', r :: rs)

@[simp] theorem feed_nil (s : Session ι α) : s.feed [] = (s, []) := rfl

theorem feed_cons (s : Session ι α) (x : Features ι α) (target : α)
    (rest : List (Example ι α)) :
    s.feed ((x, target) :: rest) =
      (((s.step x target).1.feed rest).1,
        (s.step x target).2 :: ((s.step x target).1.feed rest).2) := rfl

theorem feed_append (s : Session ι α) (xs ys : List (Example ι α)) :
    s.feed (xs ++ ys) =
      (((s.feed xs).1.feed ys).1, (s.feed xs).2 ++ ((s.feed xs).1.feed ys).2) := by
  induction xs generalizing s with
  | nil => rfl
  | cons e xs ih =>
    obtain ⟨x, target⟩ := e
    rw [List.cons_append, feed_cons, ih, feed_cons]
    rfl

theorem feed_replicate_succ (s : Session ι α) (x : Features ι α) (target : α) (k : Nat) :
    (s.feed (List.replicate (k + 1) (x, target))).1 =
      ((s.feed (List.replicate k (x, target))).1.step x target).1 := by
  rw [List.replicate_succ', feed_append]
  rfl

theorem feed_induction {P : Session ι α → Prop} {stream : List (Example ι α)}
    (hstep : ∀ s, ∀ e ∈ stream, P s → P (s.step e.1 e.2).1) {s : Session ι α} (hs : P s) :
    P (s.feed stream).1 := by
  induction stream generalizing s with
  | nil => exact hs
  | cons e rest ih =>
    obtain ⟨x, target⟩ := e
    rw [feed_cons]
    exact ih (fun s e he => hstep s e (List.mem_cons_of_mem _ he))
      (hstep s (x, target) List.mem_cons_self hs)

theorem settings_feed (s : Session ι α) (stream : List (Example ι α)) :
    (s.feed stream).1.settings = s.settings ∧
      (s.feed stream).1.aggressiveness = s.aggressiveness := by
  refine feed_induction (P := fun s' => s'.settings = s.settings ∧
    s'.aggressiveness = s.aggressiveness) (fun s' e _ h => ?_) ⟨rfl, rfl⟩
  obtain ⟨hsettings, haggressive⟩ := settings_step s' e.1 e.2
  exact ⟨hsettings.trans h.1, haggressive.trans h.2⟩

end Session
end PassiveAggressive
