import PassiveAggressive.Proofs.Session.Replay
import PassiveAggressive.Proofs.Session.SideBySide

/-!
# Feeding the moves again

Of the examples that a session without a spread has been fed, only those that moved the
weights have left a trace.  Fed to a new session by themselves, each of them comes to
the very outcome it came to among the others, and the model is the same in the end; the
others are missing from the counters only.

The two runs are kept side by side: the second session is the first but for its counters
(`Alike` with equal models).  An example that is a move is a step of both.  An example
that is none is a step of the first alone, which changes its counters and nothing else,
and the second session stays where it is.

In an adaptive session an example widens the margin of those that follow it whatever it
comes to itself, and the statement does not hold.
-/

namespace PassiveAggressive

open Scalar

namespace Session

section Counting

variable {ι α : Type} [Key ι] [Arithmetic α] {s : Session ι α} {x : Features ι α} {target : α}

theorem counters_step_of_some {outcome : Outcome α}
    (h : moved? (s.step x target).2 = some outcome) :
    (s.step x target).1.counters = s.counters + ⟨1, 1, 0, 0⟩ := by
  obtain ⟨hok, hstatus⟩ := moved?_eq_some_iff.1 h
  have hsteps := stepsTo_step s x target
  rw [hok] at hsteps
  generalize (s.step x target).1 = s' at hsteps
  cases hsteps with
  | noUpdate | skipped => cases hstatus
  | updated => rfl

theorem updated_step_of_none (h : moved? (s.step x target).2 = none) :
    (s.step x target).1.counters.updated = s.counters.updated := by
  have hsteps := stepsTo_step s x target
  generalize s.step x target = result at h hsteps
  obtain ⟨s', r⟩ := result
  cases hsteps with
  | updated => cases h
  | _ => rfl

end Counting

variable {ι F : Type} [NumberSystem F] [Key ι] {s t : Session ι (Scalar F)}

theorem InSystem.step_of_none (hs : s.InSystem) (hfixed : s.spread = none) (hidle : s.phase = .idle)
    {x : Features ι (Scalar F)} {target : Scalar F} (h : moved? (s.step x target).2 = none) :
    (s.step x target).1 = { s with counters := (s.step x target).1.counters } := by
  have hweights := hs.weights_step_of_none h
  have hstep := step_of_fixed hfixed hidle x target
  rw [hweights] at hstep
  exact hstep

/-- **Feeding the moves again**, to a session that is the first but for its counters. -/
theorem Alike.refeed (h : Alike Eq s t) (hs : s.InSystem) (hfixed : s.spread = none)
    (hidle : s.phase = .idle) (stream : List (Example ι (Scalar F))) :
    let kept := moves (stream.zip (s.feed stream).2)
    (t.feed (kept.map Prod.fst)).2 = kept.map (fun move => .ok move.2) ∧
    (t.feed (kept.map Prod.fst)).1.weights = (s.feed stream).1.weights ∧
    (t.feed (kept.map Prod.fst)).1.counters = t.counters + ⟨kept.length, kept.length, 0, 0⟩ ∧
    (s.feed stream).1.counters.updated = s.counters.updated + kept.length := by
  induction stream generalizing s t with
  | nil => exact ⟨rfl, h.weights.symm, rfl, rfl⟩
  | cons e stream ih =>
    obtain ⟨x, target⟩ := e
    have hs' : (s.step x target).1.InSystem := (hs.step x target).1
    have hfixed' : (s.step x target).1.spread = none := by
      rw [step_of_fixed hfixed hidle]
      exact hfixed
    have hidle' : (s.step x target).1.phase = .idle := idle_step hidle x target
    rw [feed_cons, List.zip_cons_cons]
    cases hmoved : moved? (s.step x target).2 with
    | none =>
      have hsame := hs.step_of_none hfixed hidle hmoved
      have halike : Alike Eq (s.step x target).1 t := by
        rw [hsame]
        exact { h with }
      rw [moves_cons_of_none hmoved, ← updated_step_of_none hmoved]
      exact ih halike hs' hfixed' hidle'
    | some outcome =>
      obtain ⟨hresult, halike, -⟩ := h.step (matches_self x) target
      obtain ⟨hresults, hweights, hcounters, hupdated⟩ := ih halike hs' hfixed' hidle'
      have hok : (t.step x target).2 = .ok outcome :=
        hresult.symm.trans (moved?_eq_some_iff.1 hmoved).1
      have ht : (t.step x target).1.counters = t.counters + ⟨1, 1, 0, 0⟩ :=
        counters_step_of_some (hresult ▸ hmoved)
      have hs : (s.step x target).1.counters = s.counters + ⟨1, 1, 0, 0⟩ :=
        counters_step_of_some hmoved
      simp only [moves_cons_of_some hmoved, List.map_cons, List.length_cons, feed_cons]
      refine ⟨by rw [hok, hresults], hweights, ?_, ?_⟩
      · rw [hcounters, ht]
        ext <;> simp <;> omega
      · simp only [hupdated, hs, Counters.updated_add]
        omega

/-- **Examples that do not move the weights are invisible.**  Without a spread, let a new session be
fed just those examples of a stream that moved the weights.  Each comes to the outcome it came to in
the stream, the model is that of the stream, and nothing is counted but the moves. -/
theorem feed_moves {settings : Settings F} (hs : create (settings.map .real) = .ok s)
    (hfixed : settings.variant.adaptive = false) (stream : List (Example ι (Scalar F))) :
    let kept := moves (stream.zip (s.feed stream).2)
    let moved := (s.feed stream).1.counters.updated
    (s.feed (kept.map Prod.fst)).2 = kept.map (fun move => .ok move.2) ∧
    (s.feed (kept.map Prod.fst)).1.weights = (s.feed stream).1.weights ∧
    (s.feed (kept.map Prod.fst)).1.counters = ⟨moved, moved, 0, 0⟩ := by
  have hsys : s.InSystem := (inSystem_of_create hs).1
  have hnone : s.spread = none :=
    (congrArg Session.spread (eq_of_create hs)).trans (if_neg (Bool.eq_false_iff.1 hfixed))
  have hidle : s.phase = .idle := congrArg Session.phase (eq_of_create hs)
  have hcounters : s.counters = .none := congrArg Session.counters (eq_of_create hs)
  have halike : Alike Eq s s := ⟨rfl, rfl, rfl, rfl, rfl⟩
  obtain ⟨hresults, hweights, hcounted, hmoved⟩ := halike.refeed hsys hnone hidle stream
  refine ⟨hresults, hweights, ?_⟩
  rw [hcounted, hmoved, hcounters]
  ext <;> simp [Counters.none]

/-- Two moves among an example without features, one that fails and one without a loss. -/
def sparse : List (Example Value (Scalar Float)) :=
  [([], .int 1),
    ([⟨.int 1, .real (Number.ofInt 1)⟩], .int 3),
    ([⟨.text "b", .foreign .text⟩], .int 1),
    ([⟨.text "b", .int 1⟩], .int 0),
    ([⟨.bool true, .int 2⟩], .int 1)]

/-- The two moves by themselves. -/
theorem feed_moves_sparse :
    let s : Session Value (Scalar Float) := untrained .pa1
    let kept := moves (sparse.zip (s.feed sparse).2)
    kept.length = 2 ∧
    (s.feed (kept.map Prod.fst)).2 = kept.map (fun move => .ok move.2) ∧
    (s.feed (kept.map Prod.fst)).1.counters = ⟨2, 2, 0, 0⟩ := by
  intro s kept
  have hs : create (Settings.map Scalar.real ⟨.pa1, none, Number.zero false⟩) = .ok s :=
    create_of_open (open_untrained .pa1)
  obtain ⟨hresults, -, hcounters⟩ := feed_moves hs rfl sparse
  have hkept : kept.length = 2 := by decide +kernel
  have hmoved : (s.feed sparse).1.counters.updated = 2 := by decide +kernel
  refine ⟨hkept, hresults, ?_⟩
  rw [hcounters, hmoved]

/-- In an adaptive session an example without a loss is not invisible: its target widens the margin
of the move that follows. -/
theorem not_forall_feed_moves :
    ¬ ∀ (settings : Settings Float) (s : OpenSession) (stream : List (Example Value Operand)),
      Session.open settings = .ok s →
        let kept := moves (stream.zip (s.feed stream).2)
        (s.feed (kept.map Prod.fst)).2 = kept.map (fun move => .ok move.2) := by
  intro h
  have hkept := h ⟨.pa1a, none, Number.ofInt 1⟩ _
    [([], .int 0), ([⟨.int 1, .real (Number.ofInt 1)⟩], .int 4)] rfl
  revert hkept
  decide +kernel

end Session
end PassiveAggressive
