import PassiveAggressive.Proofs.Session.Failure

/-!
# The weights are what the reports say

A session reports what became of each example, and the reports of the steps that moved
the weights say by how much.  These reports are all that is needed to make the model
again: adding the signed step size times each value, move by move, to no weights at all
gives the model that the session has, whatever else has been done with it.

Every part of a step that is not reported as a move must leave the weights alone for
that, and the part where this is not plain is the move itself.  It runs through the
example once more and could be stopped on the way.  It is not: an example that has been
scored holds keys and numbers, the signed step size is a number of the system if there
is one, and nothing else can stop it (`InSystem.exists_moveAlong`).  No law of the
underlying system is used, so the arithmetic may round as it likes.

The ids of the model are then the ids of the moves, as far as none before is the same
key: the model lists them in the order of their first appearance and as they were first
written (`replay_keys`).

* `addAlong`, `replay`: the weights moved by a report, and by all of them.
* `InSystem.weights_call`: what one call does to the weights.
* `weights_eq_replay`: what a whole run makes of them.
-/

namespace PassiveAggressive

open Scalar

/-! ## Reports of moves -/

section Reports

variable {β α : Type}

/-- The outcome, if the weights were moved. -/
def moved? : Except StepError (Outcome α) → Option (Outcome α)
  | .ok outcome => if outcome.status = .updated then some outcome else none
  | .error _ => none

/-- The reports of moves, among the reports on whatever was fed. -/
def moves (reports : List (β × Except StepError (Outcome α))) : List (β × Outcome α) :=
  reports.filterMap fun report => (moved? report.2).map (report.1, ·)

theorem moved?_eq_some_iff {r : Except StepError (Outcome α)} {outcome : Outcome α} :
    moved? r = some outcome ↔ r = .ok outcome ∧ outcome.status = .updated := by
  unfold moved?
  split
  · rename_i o
    split
    · rename_i hstatus
      constructor
      · rintro ⟨⟩
        exact ⟨rfl, hstatus⟩
      · rintro ⟨⟨⟩, -⟩
        rfl
    · rename_i hstatus
      simp only [reduceCtorEq, Except.ok.injEq, false_iff, not_and]
      rintro rfl
      exact hstatus
  · simp

theorem moved?_eq_none_iff {r : Except StepError (Outcome α)} :
    moved? r = none ↔ ∀ outcome, r = .ok outcome → outcome.status ≠ .updated := by
  simp only [Option.eq_none_iff_forall_ne_some, ne_eq, moved?_eq_some_iff, not_and]

theorem moves_cons_of_some {b : β} {r : Except StepError (Outcome α)} {outcome : Outcome α}
    (h : moved? r = some outcome) (rest : List (β × Except StepError (Outcome α))) :
    moves ((b, r) :: rest) = (b, outcome) :: moves rest := by
  unfold moves
  rw [List.filterMap_cons, h, Option.map_some]

theorem moves_cons_of_none {b : β} {r : Except StepError (Outcome α)} (h : moved? r = none)
    (rest : List (β × Except StepError (Outcome α))) : moves ((b, r) :: rest) = moves rest := by
  unfold moves
  rw [List.filterMap_cons, h, Option.map_none]

end Reports

variable {ι α F : Type} [Key ι]

/-! ## Adding up moves -/

namespace WeightMap

section Adding

variable [Arithmetic α]

/-- Adds `coeff` times each value to the weights of an example. -/
def addAlong (m : WeightMap ι α) (coeff : α) (x : Features ι α) : Except Fault (WeightMap ι α) :=
  x.foldlM (fun m f => do let share ← Arithmetic.mul coeff f.value; m.add f.id share) m

/-- Adds the moves to a model, one after the other. -/
def addMoves (m : WeightMap ι α) (ms : List (Example ι α × Outcome α)) :
    Except Fault (WeightMap ι α) :=
  ms.foldlM (fun m move => m.addAlong move.2.coeff move.1.1) m

/-- The model that the moves make out of no weights. -/
def replay (ms : List (Example ι α × Outcome α)) : Except Fault (WeightMap ι α) :=
  empty.addMoves ms

/-- A move that gets all the way is such an addition. -/
theorem addAlong_of_moveAlong {m m' : WeightMap ι α} {coeff : α} {x : Features ι α}
    (h : Session.moveAlong m coeff x = (m', .ok ())) : m.addAlong coeff x = .ok m' := by
  unfold addAlong
  induction x generalizing m with
  | nil =>
    cases h
    rfl
  | cons f fs ih =>
    rw [Session.moveAlong] at h
    rw [List.foldlM_cons]
    split at h
    · cases h
    · rename_i moved hmoved
      rw [hmoved, ok_bind]
      exact ih h

/-! ## The ids of a model that has been added up -/

/-- The ids with one more, unless one of them is the same key. -/
def fileKey (known : List ι) (id : ι) : List ι :=
  if known.any (Key.same · id) then known else known ++ [id]

theorem foldl_fileKey (ids known : List ι) :
    ids.foldl fileKey known.reverse =
      List.eraseDupsBy.loop (fun id earlier => Key.same earlier id) ids known := by
  induction ids generalizing known with
  | nil => rw [List.foldl_nil, List.eraseDupsBy.loop]
  | cons id ids ih =>
    rw [List.foldl_cons, List.eraseDupsBy.loop, fileKey, List.any_reverse]
    cases known.any fun earlier => Key.same earlier id with
    | true => exact ih known
    | false =>
      rw [if_neg Bool.false_ne_true, ← List.reverse_cons]
      exact ih (id :: known)

theorem keys_add {m m' : WeightMap ι α} {id : ι} {delta : α} (h : m.add id delta = .ok m') :
    m'.keys = fileKey m.keys id ∧ (m.DistinctKeys → m'.DistinctKeys) := by
  obtain ⟨w, -, h⟩ := bind_eq_ok_iff.1 h
  obtain ⟨sum, -, h⟩ := bind_eq_ok_iff.1 h
  cases h
  exact ⟨keys_insert m id sum, fun hm => distinctKeys_insert hm id sum⟩

theorem keys_addAlong {m m' : WeightMap ι α} {coeff : α} {x : Features ι α}
    (h : m.addAlong coeff x = .ok m') :
    m'.keys = (x.map Feature.id).foldl fileKey m.keys ∧ (m.DistinctKeys → m'.DistinctKeys) := by
  unfold addAlong at h
  induction x generalizing m with
  | nil =>
    cases h
    exact ⟨rfl, fun hm => hm⟩
  | cons f fs ih =>
    rw [List.foldlM_cons] at h
    obtain ⟨m₁, hfirst, h⟩ := bind_eq_ok_iff.1 h
    obtain ⟨share, -, hadd⟩ := bind_eq_ok_iff.1 hfirst
    obtain ⟨hkeys, hdistinct⟩ := keys_add hadd
    obtain ⟨hrest, hdistinct'⟩ := ih h
    refine ⟨?_, fun hm => hdistinct' (hdistinct hm)⟩
    rw [hrest, hkeys, List.map_cons, List.foldl_cons]

theorem keys_addMoves {m m' : WeightMap ι α} {ms : List (Example ι α × Outcome α)}
    (h : m.addMoves ms = .ok m') :
    m'.keys = (ms.flatMap fun move => move.1.1.map Feature.id).foldl fileKey m.keys ∧
      (m.DistinctKeys → m'.DistinctKeys) := by
  unfold addMoves at h
  induction ms generalizing m with
  | nil =>
    cases h
    exact ⟨rfl, fun hm => hm⟩
  | cons move ms ih =>
    rw [List.foldlM_cons] at h
    obtain ⟨m₁, hfirst, h⟩ := bind_eq_ok_iff.1 h
    obtain ⟨hkeys, hdistinct⟩ := keys_addAlong hfirst
    obtain ⟨hrest, hdistinct'⟩ := ih h
    refine ⟨?_, fun hm => hdistinct' (hdistinct hm)⟩
    rw [hrest, hkeys, List.flatMap_cons, List.foldl_append]

/-- **The ids of a replay** are the ids of its moves, each as it first appears, and no two of them
are the same key. -/
theorem replay_keys {m : WeightMap ι α} {ms : List (Example ι α × Outcome α)}
    (h : replay ms = .ok m) :
    m.keys = (ms.flatMap fun move => move.1.1.map Feature.id).eraseDupsBy
        (fun id earlier => Key.same earlier id) ∧
      m.DistinctKeys := by
  obtain ⟨hkeys, hdistinct⟩ := keys_addMoves h
  exact ⟨hkeys.trans (foldl_fileKey _ []), hdistinct distinctKeys_empty⟩

end Adding
end WeightMap

/-! ## A move is not stopped -/

section Moves

variable [NumberSystem F]

omit [Key ι] in
theorem isReal_div {x y : F} {q : Scalar F} (h : Arithmetic.div (.real x) (.real y) = .ok q) :
    q.IsReal := by
  have hdiv : (NumberSystem.divide x y >>= fun q => .ok (real q)) = .ok q := h
  obtain ⟨r, -, hdiv⟩ := bind_eq_ok_iff.1 hdiv
  cases hdiv
  exact isReal_real r

/-- A step size for numbers of the system is one, if there is a step size. -/
theorem isReal_size {rule : StepRule} {l n c : F} {eta : Scalar F}
    (h : rule.size (Scalar.real l) (.real n) (.real c) = .ok eta) : eta.IsReal := by
  cases rule with
  | capped =>
    simp only [StepRule.size, quotientOrInfinity_real, ok_bind, Arithmetic.least, lt_real] at h
    cases h
    split
    · exact isReal_real _
    · exact isReal_real _
  | softened =>
    obtain ⟨softening, hsoftening, h⟩ := bind_eq_ok_iff.1 h
    obtain ⟨w, rfl⟩ : softening.IsReal := isReal_div (x := NumberSystem.half) hsoftening
    rw [add_real, ok_bind, quotientOrInfinity_real] at h
    cases h
    exact isReal_real _

namespace Session

variable {s : Session ι (Scalar F)} {x : Features ι (Scalar F)} {target : Scalar F}
  {seen : Margin (Scalar F)} {epsilon loss eta coeff : Scalar F}

/-- The signed step size is a number of the system, if there is one. -/
theorem InSystem.coeff_isReal (hs : s.InSystem)
    (h : Sized s x target seen epsilon loss eta coeff) : coeff.IsReal := by
  obtain ⟨⟨hscore, n, hn⟩, -⟩ := hs.scored h.scored
  obtain ⟨⟨l, rfl⟩, -⟩ := isReal_insensitiveLoss hscore h.loss_eq
  obtain ⟨c, hc, -⟩ := hs.aggressive
  obtain ⟨difference, -, hsize⟩ := bind_eq_ok_iff.1 h.size_eq
  obtain ⟨above, -, hsize⟩ := bind_eq_ok_iff.1 hsize
  obtain ⟨eta', heta, hsize⟩ := bind_eq_ok_iff.1 hsize
  obtain ⟨coeff', hcoeff, hsize⟩ := bind_eq_ok_iff.1 hsize
  cases hsize
  rw [hn, hc] at heta
  obtain ⟨_, _, -, -, rfl⟩ := (mul_eq_ok_iff (.inr (isReal_size heta))).1 hcoeff
  exact isReal_real _

/-- **A move is not stopped**: where there is a step size, the weights move all the way. -/
theorem InSystem.exists_moveAlong (hs : s.InSystem)
    (h : Sized s x target seen epsilon loss eta coeff) :
    ∃ m, moveAlong s.weights coeff x = (m, .ok ()) := by
  obtain ⟨c, rfl⟩ := hs.coeff_isReal h
  exact moveAlong_inSystem hs.weights c (WeightMap.check_of_scoreAndNorm h.scored)
    (hs.scored h.scored).2

/-- What a step does to the weights is the move it reports, and nothing if it reports none. -/
theorem InSystem.weights_step (hs : s.InSystem) (x : Features ι (Scalar F)) (target : Scalar F) :
    match moved? (s.step x target).2 with
    | some outcome => s.weights.addAlong outcome.coeff x = .ok (s.step x target).1.weights
    | none => (s.step x target).1.weights = s.weights := by
  have hsteps := stepsTo_step s x target
  generalize s.step x target = result at hsteps
  obtain ⟨s', r⟩ := result
  cases hsteps with
  | stuck hsized hfinite hmove =>
    obtain ⟨m, hm⟩ := hs.exists_moveAlong hsized
    rw [hmove] at hm
    cases hm
  | updated hsized hfinite hmove => exact WeightMap.addAlong_of_moveAlong hmove
  | _ => rfl

/-- An example that does not come to a move leaves the weights as they are. -/
theorem InSystem.weights_step_of_none (hs : s.InSystem)
    (h : moved? (s.step x target).2 = none) : (s.step x target).1.weights = s.weights := by
  have hstep := hs.weights_step x target
  rw [h] at hstep
  exact hstep

/-! ## A run -/

/-- What the steps of a run reported, each with its example. -/
def transcript {α : Type} [Arithmetic α] (s : Session ι α) :
    List (Call ι α) → List (Example ι α × Except StepError (Outcome α))
  | [] => []
  | .step x target :: calls =>
    ((x, target), (s.step x target).2) :: (s.call (.step x target)).transcript calls
  | c :: calls => (s.call c).transcript calls

/-- The call is a step that comes to a move. -/
def Moves {α : Type} [Arithmetic α] (s : Session ι α) : Call ι α → Prop
  | .step x target => ∃ outcome, moved? (s.step x target).2 = some outcome
  | _ => False

theorem InSystem.weights_call (hs : s.InSystem) {c : Call ι (Scalar F)}
    (hdirect : ∀ id delta, c ≠ .adjust id delta) (hc : ¬ s.Moves c) :
    (s.call c).weights = s.weights := by
  cases c with
  | step x target => exact hs.weights_step_of_none (Option.eq_none_iff_forall_ne_some.2 fun o ho =>
      hc ⟨o, ho⟩)
  | adjust id delta => exact (hdirect id delta rfl).elim
  | _ => rfl

/-- From any session, a run adds the moves it reports. -/
theorem InSystem.addMoves_transcript (hs : s.InSystem) {calls : List (Call ι (Scalar F))}
    (hdirect : ∀ c ∈ calls, ∀ id delta, c ≠ .adjust id delta) :
    s.weights.addMoves (moves (s.transcript calls)) = .ok (s.after calls).weights := by
  induction calls generalizing s with
  | nil => rfl
  | cons c calls ih =>
    obtain ⟨hc, hcalls⟩ := List.forall_mem_cons.1 hdirect
    have hrest := ih (hs.after [c]).1 hcalls
    change (s.call c).weights.addMoves (moves ((s.call c).transcript calls)) =
      .ok (s.after (c :: calls)).weights at hrest
    cases c with
    | step x target =>
      have hstep := hs.weights_step x target
      rw [transcript]
      cases hmoved : moved? (s.step x target).2 with
      | some outcome =>
        rw [hmoved] at hstep
        have hadd : s.weights.addAlong outcome.coeff x = .ok (s.call (.step x target)).weights :=
          hstep
        rw [moves_cons_of_some hmoved, WeightMap.addMoves, List.foldlM_cons, hadd, ok_bind]
        exact hrest
      | none =>
        rw [hmoved] at hstep
        have hsame : (s.call (.step x target)).weights = s.weights := hstep
        rw [moves_cons_of_none hmoved, ← hsame]
        exact hrest
    | adjust id delta => exact (hc id delta rfl).elim
    | predict | weights | finalize => exact hrest

/-- **The model is the replay of the moves that were reported.**  In a new session let anything be
done but adding to a weight directly.  Then the model is what the moves make out of no weights; its
ids are the ids of the moves, each as it first appeared and no two of them the same key; and a call
that does not come to a move has no part in it. -/
theorem weights_eq_replay {settings : Settings F} (hs : create (settings.map .real) = .ok s)
    {calls : List (Call ι (Scalar F))}
    (hdirect : ∀ c ∈ calls, ∀ id delta, c ≠ .adjust id delta) :
    WeightMap.replay (moves (s.transcript calls)) = .ok (s.after calls).weights ∧
    (s.after calls).weights.keys = ((moves (s.transcript calls)).flatMap fun move =>
      move.1.1.map Feature.id).eraseDupsBy (fun id earlier => Key.same earlier id) ∧
    (s.after calls).weights.DistinctKeys ∧
    ∀ pre c post, calls = pre ++ c :: post → ¬ (s.after pre).Moves c →
      ((s.after pre).call c).weights = (s.after pre).weights := by
  have hsys : s.InSystem := (inSystem_of_create hs).1
  have hempty : s.weights = .empty := congrArg Session.weights (eq_of_create hs)
  have hreplay : WeightMap.replay (moves (s.transcript calls)) = .ok (s.after calls).weights := by
    rw [WeightMap.replay, ← hempty]
    exact hsys.addMoves_transcript hdirect
  obtain ⟨hkeys, hdistinct⟩ := WeightMap.replay_keys hreplay
  refine ⟨hreplay, hkeys, hdistinct, ?_⟩
  rintro pre c post rfl hc
  exact (hsys.after pre).1.weights_call (hdirect c (by simp)) hc

/-- A run with two moves under one key, which is written as a number first, and with a step that
fails, a step that is no move and a step that comes too late. -/
def mixed : List (Call Value Operand) :=
  [.step [⟨.int 1, .real (Number.ofInt 1)⟩] (.int 3),
    .predict [⟨.text "b", .int 1⟩],
    .step [⟨.bool true, .int 2⟩, ⟨.text "a", .bool true⟩] (.int 1),
    .step [⟨.text "b", .int 1⟩, ⟨.text "c", .foreign .text⟩] (.int 1),
    .step [⟨.text "b", .int 1⟩] (.int 0),
    .weights,
    .finalize,
    .step [⟨.text "b", .int 1⟩] (.int 1)]

/-- The model of that run is the replay of its two moves, and lists the number. -/
theorem weights_eq_replay_mixed :
    WeightMap.replay (moves ((untrained .pa1).transcript mixed)) =
      .ok ((untrained .pa1).after mixed).weights ∧
    ((untrained .pa1).after mixed).weights.keys.map Value.kind = [.int, .text] := by
  have hs : create (Settings.map Scalar.real ⟨.pa1, none, Number.zero false⟩) =
      .ok (untrained .pa1) := create_of_open (open_untrained .pa1)
  have hdirect : ∀ c ∈ mixed, ∀ id delta, c ≠ .adjust id delta := by simp [mixed]
  obtain ⟨hreplay, hkeys, -⟩ := weights_eq_replay hs hdirect
  refine ⟨hreplay, ?_⟩
  rw [hkeys]
  decide +kernel

end Session
end Moves
end PassiveAggressive
