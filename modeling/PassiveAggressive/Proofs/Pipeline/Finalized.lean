import Mathlib.Data.List.Nodup
import PassiveAggressive.Proofs.Session.Course

/-!
# A finalized pipeline stays finalized

A pipeline can be fed in two ways, example by example and by a whole stream, and it can be
asked for its weights more than once.  Once it has been finalized none of this changes
what it has learnt: an example is refused before it is looked at, a stream is refused at
its first example and only an empty one goes through, and the weights that are handed over
are the same every time.

Finalizing also records the counters as metrics, if the instrumentation is on.  The metrics
then are the counters, name by name, and remain so, because what could change the counters
is refused.  That a second recording takes the place of the first one, and is not put
behind it, is `Metrics.recordAll_entries`.

* `Pipeline.Request`, `Pipeline.after`: what can be done with a pipeline, in any order.
* `Recording`: what the metrics hold at any time, preserved by every request.
* `session_request_of_finalized`: no request changes a finalized session.
* `finalized_for_good`: what remains after finalizing, whatever is asked for then.
-/

namespace PassiveAggressive

/-! ## Recording metrics -/

namespace Named

variable {β : Type}

theorem file_append {name : String} {front : List (String × β)} (h : name ∉ front.map Prod.fst)
    (value : β) (back : List (String × β)) :
    file name value (front ++ back) = front ++ file name value back := by
  induction front with
  | nil => rfl
  | cons e front ih =>
    rw [List.map_cons, List.mem_cons, not_or] at h
    rw [List.cons_append, file, if_neg fun he => h.1 he.symm, ih h.2, List.cons_append]

end Named

namespace Metrics

theorem recordAll_of_off {m : Metrics} (hoff : m.enabled = false) (es : List (String × Value)) :
    (m.recordAll es).1 = m := by
  induction es with
  | nil => rfl
  | cons e es ih =>
    have hrecord : (m.record e.1 e.2).1 = m := by
      rw [record, hoff, if_neg Bool.false_ne_true]
    rw [recordAll]
    simp only [hrecord, ih]

theorem enabled_recordAll (m : Metrics) (es : List (String × Value)) :
    (m.recordAll es).1.enabled = m.enabled := by
  induction es generalizing m with
  | nil => rfl
  | cons e es ih =>
    rw [recordAll]
    simp only [ih, record]
    split <;> rfl

/-- **Recording again takes the place of what was recorded.**  Let the recorder hold `front`, and
behind it either nothing or the very names that are to be recorded.  Then it holds `front` and the
new values afterwards. -/
theorem recordAll_entries {m : Metrics} (hon : m.enabled = true) {es : List (String × Value)}
    (hnames : (es.map Prod.fst).Nodup) {front back : List (String × Value)}
    (hentries : m.values.entries = front ++ back)
    (hfront : ∀ name ∈ es.map Prod.fst, name ∉ front.map Prod.fst)
    (hback : back = [] ∨ back.map Prod.fst = es.map Prod.fst) :
    (m.recordAll es).1.values.entries = front ++ es := by
  induction es generalizing m front back with
  | nil =>
    have : back = [] := hback.elim id List.map_eq_nil_iff.1
    rw [recordAll, hentries, this]
  | cons e es ih =>
    obtain ⟨hnew, hnames⟩ := List.nodup_cons.1 hnames
    obtain ⟨he, hes⟩ := List.forall_mem_cons.1 hfront
    -- the first value takes the place of the first entry behind `front`, if there is one
    obtain ⟨rest, hfile, hrest⟩ : ∃ rest, Named.file e.1 e.2 back = e :: rest ∧
        (rest = [] ∨ rest.map Prod.fst = es.map Prod.fst) := by
      rcases back with _ | ⟨b, back⟩
      · exact ⟨[], rfl, .inl rfl⟩
      · obtain ⟨hb, hback⟩ := List.cons.inj (hback.resolve_left (List.cons_ne_nil _ _))
        exact ⟨back, by rw [Named.file, if_pos hb], .inr hback⟩
    have hrecord : (m.record e.1 e.2).1 = { m with values := m.values.put e.1 e.2 } := by
      rw [record, hon, if_pos rfl]
    have hput : (m.record e.1 e.2).1.values.entries = (front ++ [e]) ++ rest := by
      rw [hrecord, Named.put, hentries, Named.file_append he, hfile, List.append_assoc,
        List.singleton_append]
    have hon' : (m.record e.1 e.2).1.enabled = true := by
      rw [hrecord]
      exact hon
    have hfront' : ∀ name ∈ es.map Prod.fst, name ∉ (front ++ [e]).map Prod.fst := by
      intro name hname hmem
      rw [List.map_append, List.mem_append] at hmem
      rcases hmem with hmem | hmem
      · exact hes name hname hmem
      · rw [List.map_singleton, List.mem_singleton] at hmem
        exact hnew (hmem ▸ hname)
    have hall := ih hon' hnames hput hfront' hrest
    rw [List.append_assoc, List.singleton_append] at hall
    exact hall

end Metrics

namespace Pipeline

variable {ι α τ : Type}

/-- What can be asked of a pipeline. -/
inductive Request (ι α τ : Type) where
  | feed (x : Features ι α) (target : α)
  | run (examples : List (Example ι α)) (c : Clock τ)
  | predict (x : Features ι α)
  | counters
  | finalize

/-! ## The counters as metrics -/

/-- The counters of a session as metrics. -/
def metricsOf (s : Session ι α) : List (String × Value) := s.counts.map fun e => (e.1, .int e.2)

theorem names_metricsOf (s t : Session ι α) :
    (metricsOf s).map Prod.fst = (metricsOf t).map Prod.fst := rfl

theorem nodup_names_metricsOf (s : Session ι α) : ((metricsOf s).map Prod.fst).Nodup := by
  change ["processed", "updated", "no_update", "skipped", "features"].Nodup
  decide

/-- The metrics are on if the instrumentation is.  They hold nothing, or the counters as they have
been at some time. -/
structure Recording (how : Presence) (p : Pipeline ι α τ) : Prop where
  presence : p.instrumentation.presence = how
  enabled : p.instrumentation.metrics.enabled = decide (how = .on)
  values : p.instrumentation.metrics.values.entries = [] ∨
    how = .on ∧ ∃ s : Session ι α, p.instrumentation.metrics.values.entries = metricsOf s

theorem recording_around (session : Session ι α) (how : Presence) (logEvery : Int) :
    Recording how (around (τ := τ) session how logEvery).1 :=
  ⟨rfl, rfl, .inl rfl⟩

/-- Finalizing makes the metrics the counters, if they are on. -/
theorem Recording.entries_finalize {how : Presence} {p : Pipeline ι α τ} (h : Recording how p) :
    p.finalize.1.instrumentation.metrics.values.entries =
      if how = .on then metricsOf p.session else [] := by
  change (p.instrumentation.metrics.recordAll (metricsOf p.session)).1.values.entries = _
  by_cases hon : how = .on
  · have hback : p.instrumentation.metrics.values.entries = [] ∨
        p.instrumentation.metrics.values.entries.map Prod.fst =
          (metricsOf p.session).map Prod.fst := by
      rcases h.values with hnone | ⟨-, s, hs⟩
      · exact .inl hnone
      · exact .inr (by rw [hs, names_metricsOf])
    rw [if_pos hon]
    exact Metrics.recordAll_entries (h.enabled.trans (decide_eq_true hon)) (nodup_names_metricsOf _)
      (List.nil_append _).symm (fun _ _ => List.not_mem_nil) hback
  · rw [if_neg hon, Metrics.recordAll_of_off (h.enabled.trans (decide_eq_false hon))]
    exact h.values.resolve_right fun hs => hon hs.1

theorem Recording.finalize {how : Presence} {p : Pipeline ι α τ} (h : Recording how p) :
    Recording how p.finalize.1 := by
  have hentries := h.entries_finalize
  refine ⟨h.presence, ?_, ?_⟩
  · change (p.instrumentation.metrics.recordAll (metricsOf p.session)).1.enabled = _
    rw [Metrics.enabled_recordAll, h.enabled]
  · by_cases hon : how = .on
    · rw [if_pos hon] at hentries
      exact .inr ⟨hon, p.session, hentries⟩
    · rw [if_neg hon] at hentries
      exact .inl hentries

/-! ## Requests -/

variable [NumberSystem τ]

theorem metrics_leave_enter (i : Instrumentation τ) (name : String) (recorded : Bool)
    (c c' : Clock τ) :
    ((i.enter name c).1.leave name recorded c').1.presence = i.presence ∧
      ((i.enter name c).1.leave name recorded c').1.metrics = i.metrics := by
  by_cases hon : i.presence = .on
  · simp [Instrumentation.enter, Instrumentation.leave, hon]
  · simp [Instrumentation.enter, Instrumentation.leave, hon]

variable [Key ι] [Arithmetic α]

/-- The pipeline after a request, whatever the request came to. -/
def request (p : Pipeline ι α τ) : Request ι α τ → Pipeline ι α τ
  | .feed x target => (p.feed x target).1
  | .run examples c => (p.run examples c).1
  | .predict _ | .counters => p
  | .finalize => p.finalize.1

/-- The pipeline after a list of requests. -/
def after (p : Pipeline ι α τ) (requests : List (Request ι α τ)) : Pipeline ι α τ :=
  requests.foldl request p

theorem after_induction {P : Pipeline ι α τ → Prop} (hrequest : ∀ p r, P p → P (p.request r))
    {p : Pipeline ι α τ} (hp : P p) (requests : List (Request ι α τ)) : P (p.after requests) := by
  induction requests generalizing p with
  | nil => exact hp
  | cons r requests ih => exact ih (hrequest p r hp)

theorem metrics_run (p : Pipeline ι α τ) (examples : List (Example ι α)) (c : Clock τ) :
    (p.run examples c).1.instrumentation.presence = p.instrumentation.presence ∧
      (p.run examples c).1.instrumentation.metrics = p.instrumentation.metrics := by
  have hmetrics := metrics_leave_enter p.instrumentation streamName true c.looked
    (p.instrumentation.enter streamName c.looked).2
  simp only [run]
  split <;> exact hmetrics

theorem Recording.request {how : Presence} {p : Pipeline ι α τ} (h : Recording how p)
    (r : Request ι α τ) : Recording how (p.request r) := by
  cases r with
  | feed | predict | counters => exact ⟨h.presence, h.enabled, h.values⟩
  | run examples c =>
    obtain ⟨hpresence, hmetrics⟩ := metrics_run p examples c
    exact ⟨hpresence.trans h.presence, (congrArg Metrics.enabled hmetrics).trans h.enabled,
      (congrArg (fun m : Metrics => m.values.entries) hmetrics).symm ▸ h.values⟩
  | finalize => exact h.finalize

/-! ## A finalized pipeline -/

omit [NumberSystem τ] in
theorem stream_of_finalized {s : Session ι α} (h : s.phase = .finalized) (logEvery : Int)
    (examples : List (Example ι α)) :
    stream logEvery s examples = (s, ([] : List (Notice α τ)),
      if examples.isEmpty then .ok () else .error .finalized) := by
  cases examples with
  | nil => rfl
  | cons e examples =>
    obtain ⟨x, target⟩ := e
    rw [stream, Session.step_of_finalized h]
    rfl

variable {p : Pipeline ι α τ}

omit [NumberSystem τ] in
theorem feed_of_finalized (h : p.session.phase = .finalized) (x : Features ι α) (target : α) :
    p.feed x target = (p, .error .finalized) := by
  rw [feed, Session.step_of_finalized h]

theorem run_of_finalized (h : p.session.phase = .finalized) (examples : List (Example ι α))
    (c : Clock τ) :
    (p.run examples c).1.session = p.session ∧
      (p.run examples c).2.2.1 = if examples.isEmpty then .ok () else .error .finalized := by
  simp only [run, stream_of_finalized h]
  cases examples.isEmpty <;> exact ⟨rfl, rfl⟩

omit [NumberSystem τ] [Key ι] [Arithmetic α] in
/-- Finalizing again does not change the session. -/
theorem finalize_of_finalized (h : p.session.phase = .finalized) :
    p.finalize.1.session = p.session := by
  obtain ⟨⟨settings, aggressiveness, weights, spread, phase, counters⟩, instrumentation, logEvery⟩ :=
    p
  obtain rfl : phase = .finalized := h
  rfl

/-- **No request changes a finalized session.** -/
theorem session_request_of_finalized (h : p.session.phase = .finalized) (r : Request ι α τ) :
    (p.request r).session = p.session := by
  cases r with
  | feed x target => rw [request, feed_of_finalized h]
  | run examples c => exact (run_of_finalized h examples c).1
  | predict | counters => rfl
  | finalize => exact finalize_of_finalized h

/-- The metrics are the counters, if they are on, and nothing otherwise. -/
def Recorded (how : Presence) (p : Pipeline ι α τ) : Prop :=
  p.instrumentation.metrics.values.entries = if how = .on then metricsOf p.session else []

theorem Recorded.request {how : Presence} (h : Recorded how p) (hrecording : Recording how p)
    (hfinalized : p.session.phase = .finalized) (r : Request ι α τ) :
    Recorded how (p.request r) := by
  have hsession := session_request_of_finalized hfinalized r
  unfold Recorded at h ⊢
  rw [hsession]
  cases r with
  | feed | predict | counters => exact h
  | run examples c =>
    rw [← h]
    exact congrArg (fun m : Metrics => m.values.entries) (metrics_run p examples c).2
  | finalize => exact hrecording.entries_finalize

/-- **Finalized is for good.**  Let a pipeline be made around a session, asked for anything and then
finalized, and be asked for anything after that.  The session is finalized and the same as when it
was finalized, with its weights, its spread and its counters; every example is refused, and so is
every stream but an empty one, which goes through; finalizing hands over the same weights again; and
the metrics are the counters, if the instrumentation is on. -/
theorem finalized_for_good (session : Session ι α) (how : Presence) (logEvery : Int)
    (before later : List (Request ι α τ)) :
    let p := (around session how logEvery).1.after before
    let q := p.finalize.1.after later
    q.session.phase = .finalized ∧ q.session = p.finalize.1.session ∧
    (∀ x target, (q.feed x target).2 = .error .finalized) ∧
    (∀ examples c, (q.run examples c).2.2.1 =
      if examples.isEmpty then .ok () else .error .finalized) ∧
    q.finalize.2.2 = p.finalize.2.2 ∧
    q.instrumentation.metrics.values.entries = if how = .on then metricsOf q.session else [] := by
  intro p q
  have hp : Recording how p :=
    after_induction (fun _ r h => h.request r) (recording_around session how logEvery) before
  obtain ⟨hphase, hsession, -, hrecorded⟩ : q.session.phase = .finalized ∧
      q.session = p.finalize.1.session ∧ Recording how q ∧ Recorded how q := by
    refine after_induction (P := fun q => q.session.phase = .finalized ∧
      q.session = p.finalize.1.session ∧ Recording how q ∧ Recorded how q) ?_
      ⟨rfl, rfl, hp.finalize, hp.entries_finalize⟩ later
    rintro q r ⟨hphase, hsession, hrecording, hrecorded⟩
    have hsame := session_request_of_finalized hphase r
    exact ⟨hsame ▸ hphase, hsame.trans hsession, hrecording.request r,
      hrecorded.request hrecording hphase r⟩
  refine ⟨hphase, hsession, fun x target => ?_, fun examples c => ?_, ?_, hrecorded⟩
  · rw [feed_of_finalized hphase]
  · exact (run_of_finalized hphase examples c).2
  · change q.session.weights.entries = p.session.weights.entries
    rw [hsession]
    rfl

end Pipeline
end PassiveAggressive
