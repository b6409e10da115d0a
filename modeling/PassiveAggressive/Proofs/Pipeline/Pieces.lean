import PassiveAggressive.Proofs.Pipeline.Finalized
import PassiveAggressive.Proofs.Session.Bookkeeping
import PassiveAggressive.Proofs.Session.Failure

/-!
# A stream in pieces

A run over a stream passes through three layers: the report on the call, the timing of the
block, and the loop over the examples.  None of them keeps anything from one run to the next
that the loop looks at.  What the loop does look at is the session, and how far the session has
come counts from its beginning and not from that of the run; so a stream may be cut anywhere and
be run piece by piece (`run_cut`).

An example that fails ends the loop, and all three layers pass the failure on.  The session has
then been fed the examples up to and including that one, and the next run goes on from there.

## What a run is compared with

A loop is compared with something that has no loop in it.  The session is that of a pipeline
which is fed one example after the other (`fed`).  The reports on progress are those on the
sessions along the stream whose number of processed examples is a multiple of `logEvery`
(`due`).  Along a stream without failures these are the reports of the loop, also where
`logEvery` is zero: of zero there are no multiples but zero, and an example that does not fail
has been counted.
-/

namespace PassiveAggressive

/-- The report is one on progress. -/
def Notice.isProgress {α τ : Type} : Notice α τ → Bool
  | progress .. => true
  | _ => false

namespace Session

variable {ι α : Type} [Key ι] [Arithmetic α]

/-- No example of the stream fails when it is fed to the session. -/
def GoesThrough (s : Session ι α) (xs : List (Example ι α)) : Prop :=
  ∀ r ∈ (s.feed xs).2, r.isOk = true

instance (s : Session ι α) (xs : List (Example ι α)) : Decidable (s.GoesThrough xs) :=
  inferInstanceAs (Decidable (∀ r ∈ (s.feed xs).2, r.isOk = true))

variable {s : Session ι α} {x : Features ι α} {target : α}

theorem goesThrough_nil (s : Session ι α) : s.GoesThrough [] := by
  rw [GoesThrough, feed_nil]
  exact List.forall_mem_nil _

theorem goesThrough_cons_iff {rest : List (Example ι α)} :
    s.GoesThrough ((x, target) :: rest) ↔
      (∃ o, (s.step x target).2 = .ok o) ∧ (s.step x target).1.GoesThrough rest := by
  unfold GoesThrough
  rw [feed_cons, List.forall_mem_cons]
  refine and_congr_left fun _ => ?_
  cases (s.step x target).2 with
  | ok o => exact ⟨fun _ => ⟨o, rfl⟩, fun _ => rfl⟩
  | error e => exact ⟨nofun, nofun⟩

theorem goesThrough_append_iff {xs ys : List (Example ι α)} :
    s.GoesThrough (xs ++ ys) ↔ s.GoesThrough xs ∧ (s.feed xs).1.GoesThrough ys := by
  unfold GoesThrough
  rw [feed_append, List.forall_mem_append]

/-- A stream that does not go through has a first example that fails. -/
theorem exists_first_failure {xs : List (Example ι α)} (h : ¬ s.GoesThrough xs) :
    ∃ before e after fault, xs = before ++ e :: after ∧ s.GoesThrough before ∧
      ((s.feed before).1.step e.1 e.2).2 = .error fault := by
  induction xs generalizing s with
  | nil => exact absurd (goesThrough_nil s) h
  | cons e rest ih =>
    obtain ⟨x, target⟩ := e
    cases hstep : (s.step x target).2 with
    | error fault => exact ⟨[], (x, target), rest, fault, rfl, goesThrough_nil s, hstep⟩
    | ok o =>
      rw [goesThrough_cons_iff, not_and] at h
      obtain ⟨before, e, after, fault, rfl, hbefore, hfault⟩ := ih (h ⟨o, hstep⟩)
      exact ⟨(x, target) :: before, e, after, fault, rfl,
        goesThrough_cons_iff.2 ⟨⟨o, hstep⟩, hbefore⟩, hfault⟩

/-- An example that does not fail is counted as processed. -/
theorem processed_step_of_ok {o : Outcome α} (h : (s.step x target).2 = .ok o) :
    (s.step x target).1.counters.processed = s.counters.processed + 1 := by
  have hsteps := stepsTo_step s x target
  rw [h] at hsteps
  generalize (s.step x target).1 = s' at hsteps
  cases hsteps <;> exact Counters.processed_noting _ _

/-- The sessions along a stream, one after each example. -/
def along (s : Session ι α) (xs : List (Example ι α)) : List (Session ι α) :=
  (List.range xs.length).map fun k => (s.feed (xs.take (k + 1))).1

theorem along_append (s : Session ι α) (xs ys : List (Example ι α)) :
    s.along (xs ++ ys) = s.along xs ++ (s.feed xs).1.along ys := by
  have hfront : ∀ k ∈ List.range xs.length,
      (s.feed ((xs ++ ys).take (k + 1))).1 = (s.feed (xs.take (k + 1))).1 := by
    intro k hk
    rw [List.take_append_of_le_length (List.mem_range.1 hk)]
  have hback : ∀ k, (s.feed ((xs ++ ys).take (xs.length + k + 1))).1 =
      ((s.feed xs).1.feed (ys.take (k + 1))).1 := by
    intro k
    rw [Nat.add_assoc, List.take_length_add_append, feed_append]
  unfold along
  rw [List.length_append, List.range_add, List.map_append, List.map_map,
    List.map_congr_left hfront]
  simp only [Function.comp_def, hback]

theorem along_cons (s : Session ι α) (x : Features ι α) (target : α)
    (rest : List (Example ι α)) :
    s.along ((x, target) :: rest) = (s.step x target).1 :: (s.step x target).1.along rest :=
  along_append s [(x, target)] rest

end Session

namespace Pipeline

variable {ι α τ : Type} [Key ι] [Arithmetic α]

/-! ## Reports that are due -/

/-- The report on the progress of a session. -/
def reportOn (s : Session ι α) : Notice α τ :=
  .progress s.counters.processed s.counters.updated s.weights.size

/-- The reports that are due along a stream: one after each example at which the number of examples
that the session has processed is a multiple of `logEvery`. -/
def due (logEvery : Int) (s : Session ι α) (xs : List (Example ι α)) : List (Notice α τ) :=
  ((s.along xs).filter fun s' => decide (logEvery ∣ (s'.counters.processed : Int))).map reportOn

variable {logEvery : Int} {s : Session ι α}

theorem due_append (xs ys : List (Example ι α)) :
    due (τ := τ) logEvery s (xs ++ ys) = due logEvery s xs ++ due logEvery (s.feed xs).1 ys := by
  rw [due, Session.along_append, List.filter_append, List.map_append]
  rfl

/-- The reports that are due are those after the first example and those after the others. -/
theorem due_cons_of_ok {x : Features ι α} {target : α} {o : Outcome α}
    (h : (s.step x target).2 = .ok o) (rest : List (Example ι α)) :
    due (τ := τ) logEvery s ((x, target) :: rest) =
      progress logEvery (s.step x target).1 ++ due logEvery (s.step x target).1 rest := by
  have hprocessed := Session.processed_step_of_ok h
  have hreports : reportsAt logEvery (s.step x target).1.counters.processed =
      decide (logEvery ∣ ((s.step x target).1.counters.processed : Int)) := by
    rw [reportsAt, ← Bool.decide_and, decide_eq_decide, ← Int.dvd_iff_emod_eq_zero,
      and_iff_right_iff_imp]
    rintro hdvd rfl
    have hzero := Int.zero_dvd.1 hdvd
    omega
  rw [due, Session.along_cons, List.filter_cons, progress, hreports]
  split <;> rfl

theorem due_zero {xs : List (Example ι α)} (h : s.GoesThrough xs) :
    due (τ := τ) 0 s xs = [] := by
  induction xs generalizing s with
  | nil => rfl
  | cons e rest ih =>
    obtain ⟨x, target⟩ := e
    obtain ⟨⟨o, ho⟩, hrest⟩ := Session.goesThrough_cons_iff.1 h
    rw [due_cons_of_ok ho, ih hrest]
    rfl

/-! ## The loop -/

/-- **A stream that goes through** is fed to the session, with the reports that are due. -/
theorem stream_of_goesThrough {xs : List (Example ι α)} (h : s.GoesThrough xs) :
    stream (τ := τ) logEvery s xs = ((s.feed xs).1, due logEvery s xs, .ok ()) := by
  induction xs generalizing s with
  | nil => rfl
  | cons e rest ih =>
    obtain ⟨x, target⟩ := e
    obtain ⟨⟨o, ho⟩, hrest⟩ := Session.goesThrough_cons_iff.1 h
    rw [stream, due_cons_of_ok ho, Session.feed_cons]
    rcases hstep : s.step x target with ⟨s', r⟩
    rw [hstep] at ho hrest
    cases ho
    simp only [ih hrest]

/-- **A stream with a failure** is fed up to there. -/
theorem stream_of_failure {before : List (Example ι α)} (hbefore : s.GoesThrough before)
    {e : Example ι α} {fault : StepError}
    (hfault : ((s.feed before).1.step e.1 e.2).2 = .error fault) (after : List (Example ι α)) :
    stream (τ := τ) logEvery s (before ++ e :: after) =
      ((s.feed (before ++ [e])).1, due logEvery s before, .error fault) := by
  induction before generalizing s with
  | nil =>
    obtain ⟨x, target⟩ := e
    rw [List.nil_append, stream, List.nil_append, Session.feed_cons]
    rcases hstep : s.step x target with ⟨s', r⟩
    rw [Session.feed_nil, hstep] at hfault
    cases hfault
    rfl
  | cons first before ih =>
    obtain ⟨x, target⟩ := first
    obtain ⟨⟨o, ho⟩, hrest⟩ := Session.goesThrough_cons_iff.1 hbefore
    rw [List.cons_append, stream, due_cons_of_ok ho, List.cons_append, Session.feed_cons]
    rw [Session.feed_cons] at hfault
    rcases hstep : s.step x target with ⟨s', r⟩
    rw [hstep] at ho hrest hfault
    cases ho
    simp only [ih hrest hfault]

/-! ## Runs -/

/-- The reports on progress among others. -/
def progressOf (notices : List (Notice α τ)) : List (Notice α τ) :=
  notices.filter Notice.isProgress

theorem progressOf_due {xs : List (Example ι α)} :
    progressOf (due (τ := τ) logEvery s xs) = due logEvery s xs := by
  refine List.filter_eq_self.2 fun n hn => ?_
  obtain ⟨s', -, rfl⟩ := List.mem_map.1 hn
  rfl

variable [NumberSystem τ]

/-- The pipeline after examples have been fed to it one by one. -/
def fed (p : Pipeline ι α τ) (xs : List (Example ι α)) : Pipeline ι α τ :=
  p.after (xs.map fun e => .feed e.1 e.2)

theorem fed_eq (p : Pipeline ι α τ) (xs : List (Example ι α)) :
    p.fed xs = { p with session := (p.session.feed xs).1 } := by
  induction xs generalizing p with
  | nil => rfl
  | cons e rest ih =>
    change (p.feed e.1 e.2).1.fed rest = _
    rw [ih]
    rfl

/-- What a run reports at its end. -/
def ending (s : Session ι α) (elapsed : τ) : Except StepError Unit → List (Notice α τ)
  | .ok () => [.done s.counts, .took elapsed]
  | .error _ => [.failed]

@[simp] theorem session_fed (p : Pipeline ι α τ) (xs : List (Example ι α)) :
    (p.fed xs).session = (p.session.feed xs).1 := by
  rw [fed_eq]

@[simp] theorem logEvery_fed (p : Pipeline ι α τ) (xs : List (Example ι α)) :
    (p.fed xs).logEvery = p.logEvery := by
  rw [fed_eq]

/-- **A run is its loop**, between what is reported at the beginning and at the end. -/
theorem run_of_stream {p : Pipeline ι α τ} {xs : List (Example ι α)} {s : Session ι α}
    {notices : List (Notice α τ)} {r : Except StepError Unit}
    (h : stream p.logEvery p.session xs = (s, notices, r)) (c : Clock τ) :
    (p.run xs c).1.session = s ∧ (p.run xs c).1.logEvery = p.logEvery ∧ (p.run xs c).2.2.1 = r ∧
      ∃ elapsed, (p.run xs c).2.1 = .started :: notices ++ ending s elapsed r := by
  simp only [run, h]
  cases r with
  | error e => exact ⟨rfl, rfl, rfl, c.now, rfl⟩
  | ok u => exact ⟨rfl, rfl, rfl, _, rfl⟩

omit [Key ι] [Arithmetic α] [NumberSystem τ] in
theorem progressOf_log (notices : List (Notice α τ)) (s : Session ι α) (elapsed : τ)
    (r : Except StepError Unit) :
    progressOf (.started :: notices ++ ending s elapsed r) = progressOf notices := by
  have hending : progressOf (ending s elapsed r) = [] := by
    cases r <;> rfl
  rw [progressOf] at hending ⊢
  rw [List.filter_append, hending, List.append_nil]
  rfl

/-- A run depends on the session and on how often progress is reported, and on nothing else that a
pipeline holds. -/
theorem run_congr {p q : Pipeline ι α τ} (hsession : p.session = q.session)
    (hevery : p.logEvery = q.logEvery) (xs : List (Example ι α)) (c c' : Clock τ) :
    (p.run xs c).1.session = (q.run xs c').1.session ∧
      (p.run xs c).2.2.1 = (q.run xs c').2.2.1 ∧
      progressOf (p.run xs c).2.1 = progressOf (q.run xs c').2.1 := by
  rcases hstream : stream (τ := τ) p.logEvery p.session xs with ⟨s, notices, r⟩
  obtain ⟨hs, -, hr, t, hlog⟩ := run_of_stream hstream c
  rw [hsession, hevery] at hstream
  obtain ⟨hs', -, hr', t', hlog'⟩ := run_of_stream hstream c'
  exact ⟨hs.trans hs'.symm, hr.trans hr'.symm, by rw [hlog, hlog', progressOf_log, progressOf_log]⟩

/-! ## Cutting a stream -/

variable {p : Pipeline ι α τ}

/-- The run goes through: the examples have been fed one by one, and the beginning, the progress
that was due, the end and the time have been reported. -/
structure Completes (p : Pipeline ι α τ) (xs : List (Example ι α)) (c : Clock τ) : Prop where
  result : (p.run xs c).2.2.1 = .ok ()
  session : (p.run xs c).1.session = (p.fed xs).session
  log : ∃ elapsed, (p.run xs c).2.1 =
    .started :: due p.logEvery p.session xs ++
      [Notice.done (p.fed xs).session.counts, Notice.took elapsed]

theorem completes_of_goesThrough {xs : List (Example ι α)} (h : p.session.GoesThrough xs)
    (c : Clock τ) : p.Completes xs c := by
  obtain ⟨hsession, -, hresult, hlog⟩ := run_of_stream (stream_of_goesThrough h) c
  rw [← session_fed] at hsession hlog
  exact ⟨hresult, hsession, hlog⟩

theorem Completes.progressOf_eq {xs : List (Example ι α)} {c : Clock τ} (h : p.Completes xs c) :
    progressOf (p.run xs c).2.1 = due p.logEvery p.session xs := by
  obtain ⟨elapsed, hlog⟩ := h.log
  rw [hlog]
  exact (progressOf_log _ (p.fed xs).session elapsed (.ok ())).trans progressOf_due

/-- A run over the first part of a stream and one over the second come to one run over the whole. -/
structure Seamless (p : Pipeline ι α τ) (xs ys : List (Example ι α)) (c₁ c₂ c : Clock τ) :
    Prop where
  first : p.Completes xs c₁
  second : (p.run xs c₁).1.Completes ys c₂
  whole : p.Completes (xs ++ ys) c
  session : ((p.run xs c₁).1.run ys c₂).1.session = (p.run (xs ++ ys) c).1.session
  progress : progressOf (p.run xs c₁).2.1 ++ progressOf ((p.run xs c₁).1.run ys c₂).2.1 =
    progressOf (p.run (xs ++ ys) c).2.1
  due : progressOf (p.run (xs ++ ys) c).2.1 = due p.logEvery p.session (xs ++ ys)
  silent : p.logEvery = 0 → progressOf (p.run (xs ++ ys) c).2.1 = []

theorem seamless_of_goesThrough {xs ys : List (Example ι α)}
    (h : p.session.GoesThrough (xs ++ ys)) (c₁ c₂ c : Clock τ) : p.Seamless xs ys c₁ c₂ c := by
  obtain ⟨hxs, hys⟩ := Session.goesThrough_append_iff.1 h
  have hfirst := completes_of_goesThrough hxs c₁
  have hwhole := completes_of_goesThrough h c
  have hsession : (p.run xs c₁).1.session = (p.session.feed xs).1 :=
    hfirst.session.trans (session_fed p xs)
  have hevery : (p.run xs c₁).1.logEvery = p.logEvery :=
    (run_of_stream (stream_of_goesThrough hxs) c₁).2.1
  rw [← hsession] at hys
  have hsecond := completes_of_goesThrough hys c₂
  refine ⟨hfirst, hsecond, hwhole, ?_, ?_, hwhole.progressOf_eq, fun hzero => ?_⟩
  · rw [hsecond.session, hwhole.session, session_fed, session_fed, hsession, Session.feed_append]
  · rw [hfirst.progressOf_eq, hsecond.progressOf_eq, hwhole.progressOf_eq, hevery, hsession,
      due_append]
  · rw [hwhole.progressOf_eq, hzero, due_zero h]

/-- The run stops at the example between `before` and `after`: it passes the fault on, the examples
up to that one have been fed, and the beginning, the progress that was due before it and the failure
have been reported.  A later run goes on from there. -/
structure StopsAt (p : Pipeline ι α τ) (before : List (Example ι α)) (e : Example ι α)
    (after : List (Example ι α)) (fault : StepError) (c : Clock τ) : Prop where
  reached : p.session.GoesThrough before
  failed : ((p.fed before).feed e.1 e.2).2 = .error fault
  result : (p.run (before ++ e :: after) c).2.2.1 = .error fault
  session : (p.run (before ++ e :: after) c).1.session = (p.fed (before ++ [e])).session
  log : (p.run (before ++ e :: after) c).2.1 =
    .started :: due p.logEvery p.session before ++ [Notice.failed]
  resumes : ∀ zs c',
    ((p.run (before ++ e :: after) c).1.run zs c').1.session =
        ((p.fed (before ++ [e])).run zs c').1.session ∧
      ((p.run (before ++ e :: after) c).1.run zs c').2.2.1 =
        ((p.fed (before ++ [e])).run zs c').2.2.1 ∧
      progressOf ((p.run (before ++ e :: after) c).1.run zs c').2.1 =
        progressOf ((p.fed (before ++ [e])).run zs c').2.1

theorem stopsAt_of_failure {before : List (Example ι α)} (hbefore : p.session.GoesThrough before)
    {e : Example ι α} {fault : StepError}
    (hfault : ((p.session.feed before).1.step e.1 e.2).2 = .error fault)
    (after : List (Example ι α)) (c : Clock τ) : p.StopsAt before e after fault c := by
  obtain ⟨hsession, hevery, hresult, elapsed, hlog⟩ :=
    run_of_stream (stream_of_failure hbefore hfault after) c
  rw [← session_fed] at hsession hfault
  exact ⟨hbefore, hfault, hresult, hsession, hlog,
    fun zs c' => run_congr hsession (hevery.trans (logEvery_fed p _).symm) zs c' c'⟩

/-- **A stream may be cut anywhere.**  If no example of a stream fails, the stream may be run in two
parts: both runs go through, and so does the run over the whole; the session is the same, and is
that of a pipeline which is fed the examples one by one; and the two runs report the progress that
the run over the whole reports, which is once after each example at which the number of examples
that the session has processed is a multiple of `logEvery`, and never if that is zero.

If some example of a stream fails, there is a first one, and the run stops there, with the fault of
that example; a later run goes on from there. -/
theorem run_cut (p : Pipeline ι α τ) :
    (∀ xs ys, p.session.GoesThrough (xs ++ ys) → ∀ c₁ c₂ c, p.Seamless xs ys c₁ c₂ c) ∧
    (∀ xs, ¬ p.session.GoesThrough xs → ∃ before e after fault, xs = before ++ e :: after ∧
      ∀ c, p.StopsAt before e after fault c) := by
  refine ⟨fun xs ys h => seamless_of_goesThrough h, fun xs h => ?_⟩
  obtain ⟨before, e, after, fault, hxs, hbefore, hfault⟩ := Session.exists_first_failure h
  exact ⟨before, e, after, fault, hxs, stopsAt_of_failure hbefore hfault after⟩

/-- A pipeline that reports after every second example, around a session that has processed one. -/
def everySecond : Pipeline Value Operand Float :=
  (around ((Session.untrained .pa2a).step [⟨.int 1, .int 1⟩] (.int 3)).1 .on (-2)).1

/-- A stream of three examples. -/
def three : List (Example Value Operand) :=
  [([⟨.text "a", .real (Number.ofInt 1)⟩], .int 2), ([⟨.bool true, .int 2⟩], .int 1),
    ([⟨.text "a", .int 1⟩, ⟨.int 2, .int 1⟩], .int 4)]

/-- An example that fails in the learner. -/
def failing : Example Value Operand := ([⟨.list [], .int 1⟩], .int 1)

/-- Three examples cut after the first one, with a report on progress on either side; and the same
examples with a failure among them. -/
theorem run_cut_every_second :
    everySecond.session.GoesThrough three ∧
    everySecond.Seamless (three.take 1) (three.drop 1) (.still NumberSystem.zero)
      (.still NumberSystem.zero) (.still NumberSystem.zero) ∧
    (due (τ := Float) (-2) everySecond.session three).length = 2 ∧
    ¬ everySecond.session.GoesThrough (three ++ failing :: three) ∧
    ∃ before e after fault, three ++ failing :: three = before ++ e :: after ∧
      everySecond.StopsAt before e after fault (.still NumberSystem.zero) := by
  have hthree : everySecond.session.GoesThrough three := by decide +kernel
  have hparts : everySecond.session.GoesThrough (three.take 1 ++ three.drop 1) := by
    rwa [List.take_append_drop]
  have hfailing : ¬ everySecond.session.GoesThrough (three ++ failing :: three) := by
    decide +kernel
  obtain ⟨before, e, after, fault, hstream, hstops⟩ := (run_cut everySecond).2 _ hfailing
  exact ⟨hthree, (run_cut everySecond).1 _ _ hparts _ _ _, by decide +kernel, hfailing, before, e,
    after, fault, hstream, hstops _⟩

end Pipeline
end PassiveAggressive
