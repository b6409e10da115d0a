import Mathlib.Algebra.Order.Field.Basic
import Mathlib.Data.List.Induction
import Mathlib.Order.Monotone.Defs
import Mathlib.Tactic.Linarith
import PassiveAggressive.Observation.Timer
import PassiveAggressive.Proofs.Exact.Sum

/-!
# Timers count no time twice

Nothing keeps the uses of a timer in order.  A name is begun twice, or stopped without having
been begun, and the stretches of different names overlap.  What a name comes to is still no
more than the time that has passed since it was first begun.

There is no pairing of beginnings and stops to argue from.  What carries the bound is where the
stretches lie (`Timing.Counted`).  Put end to end from the first beginning of the name, those
that have been counted reach no further than the latest reading, and no further than the
beginning of the stretch that is running.  To begin the name again only moves the second bound
on, and a stop adds what lies between that beginning and the reading it takes.

The other laws do not depend on how the readings compare.

* `Timing.elapsed_used`: a stop returns the time since the name was begun last.
* `Timing.total_after`: a total is the sum of what the stops of the name have returned.
* `Timing.running_after`: a name is running if it was begun last, and the timer is on.
* `Timing.accounts`: all of it, for exact readings that never decrease.
-/

namespace PassiveAggressive

/-- A clock with readings in a field. -/
def Clock.showing {K : Type} (r : Nat → K) (looks : Nat) : Clock (Exact K) :=
  ⟨fun look => .finite (r look), looks⟩

namespace Timer

variable {τ : Type}

/-! ## One use -/

/-- What is done with a timer. -/
inductive Use where
  | begin (name : String)
  | stop (name : String)
  deriving DecidableEq

/-- The name it is done to. -/
def Use.name : Use → String
  | begin name | stop name => name

theorem begin_enabled {t : Timer τ} (h : t.enabled = true) (name : String) (c : Clock τ) :
    t.begin name c = ({ t with begun := t.begun.put name c.now }, c.looked) := if_pos h

theorem begin_disabled {t : Timer τ} (h : t.enabled = false) (name : String) (c : Clock τ) :
    t.begin name c = (t, c) := if_neg (by simp [h])

variable [NumberSystem τ]

/-- What a name comes to. -/
def total (t : Timer τ) (name : String) : τ := (t.totals.get? name).getD NumberSystem.zero

theorem total_begin (t : Timer τ) (name other : String) (c : Clock τ) :
    (t.begin name c).1.total other = t.total other := by
  by_cases h : t.enabled = true
  · rw [begin_enabled h]
    rfl
  · rw [begin_disabled (by simpa using h)]

/-- A stop leaves everything as it is, or it counts the stretch that is running. -/
theorem stop_cases (t : Timer τ) (name : String) (c : Clock τ) :
    (t.enabled = false ∨ t.begun.get? name = none) ∧
        t.stop name c = (t, NumberSystem.zero, c) ∨
      ∃ since, t.enabled = true ∧ t.begun.get? name = some since ∧
        t.stop name c = (⟨true, t.begun.erase name,
          t.totals.put name (NumberSystem.add (t.total name) (NumberSystem.sub c.now since))⟩,
          NumberSystem.sub c.now since, c.looked) := by
  rw [stop]
  split
  · exact .inl ⟨.inr ‹_›, rfl⟩
  · rename_i since hsince
    split
    · rename_i h
      exact .inr ⟨since, h, hsince, by rw [total, h]⟩
    · rename_i h
      exact .inl ⟨.inl (by simpa using h), rfl⟩

end Timer

open Timer (Use)

/-- A timer in use: the timer, its clock, and what its stops have returned. -/
structure Timing (τ : Type) where
  timer : Timer τ
  clock : Clock τ
  returned : List (String × τ)

namespace Timing

variable {τ : Type} [NumberSystem τ]

/-- A new timer, and a clock. -/
def start (enabled : Bool) (c : Clock τ) : Timing τ := ⟨.new enabled, c, []⟩

/-- Uses the timer. -/
def use (s : Timing τ) : Use → Timing τ
  | .begin name =>
    let (timer, clock) := s.timer.begin name s.clock
    { s with timer, clock }
  | .stop name =>
    let (timer, elapsed, clock) := s.timer.stop name s.clock
    ⟨timer, clock, s.returned ++ [(name, elapsed)]⟩

/-- Uses the timer several times. -/
def after (s : Timing τ) (us : List Use) : Timing τ := us.foldl use s

/-- What the stops of a name have returned. -/
def returnedFor (s : Timing τ) (name : String) : List τ :=
  (s.returned.filter fun e => e.1 = name).map Prod.snd

theorem after_append (s : Timing τ) (us vs : List Use) :
    s.after (us ++ vs) = (s.after us).after vs := List.foldl_append

theorem after_concat (s : Timing τ) (us : List Use) (u : Use) :
    s.after (us ++ [u]) = (s.after us).use u := s.after_append us [u]

/-- **What a use does**: it leaves everything as it is, or it begins a stretch, or it counts the
stretch that is running. -/
theorem use_cases (s : Timing τ) (u : Use) :
    ((s.use u).timer = s.timer ∧ (s.use u).clock = s.clock ∧
        (s.timer.enabled = false ∨ ∃ name, u = .stop name ∧ s.timer.begun.get? name = none)) ∨
      (∃ name, u = .begin name ∧ s.timer.enabled = true ∧
        (s.use u).timer = { s.timer with begun := s.timer.begun.put name s.clock.now } ∧
        (s.use u).clock = s.clock.looked) ∨
      ∃ name since, u = .stop name ∧ s.timer.enabled = true ∧
        s.timer.begun.get? name = some since ∧
        (s.use u).timer = ⟨true, s.timer.begun.erase name, s.timer.totals.put name
          (NumberSystem.add (s.timer.total name) (NumberSystem.sub s.clock.now since))⟩ ∧
        (s.use u).clock = s.clock.looked := by
  cases u with
  | begin name =>
    by_cases h : s.timer.enabled = true
    · refine .inr (.inl ⟨name, rfl, h, ?_⟩)
      rw [use, Timer.begin_enabled h]
      exact ⟨rfl, rfl⟩
    · have hoff : s.timer.enabled = false := by simpa using h
      rw [use, Timer.begin_disabled hoff]
      exact .inl ⟨rfl, rfl, .inl hoff⟩
  | stop name =>
    rcases s.timer.stop_cases name s.clock with ⟨hidle, hstop⟩ | ⟨since, h, hsince, hstop⟩
    · rw [use, hstop]
      exact .inl ⟨rfl, rfl, hidle.imp_right fun hnone => ⟨name, rfl, hnone⟩⟩
    · refine .inr (.inr ⟨name, since, rfl, h, hsince, ?_⟩)
      rw [use, hstop]
      exact ⟨rfl, rfl⟩

/-! ## What a use leaves alone -/

@[simp] theorem enabled_use (s : Timing τ) (u : Use) :
    (s.use u).timer.enabled = s.timer.enabled := by
  rcases s.use_cases u with ⟨htimer, -⟩ | ⟨_, -, -, htimer, -⟩ | ⟨_, _, -, hon, -, htimer, -⟩
  · rw [htimer]
  · rw [htimer]
  · rw [htimer, hon]

@[simp] theorem enabled_after (s : Timing τ) (us : List Use) :
    (s.after us).timer.enabled = s.timer.enabled := by
  induction us generalizing s with
  | nil => rfl
  | cons u us ih => exact (ih (s.use u)).trans (s.enabled_use u)

theorem clock_use (s : Timing τ) (u : Use) :
    (s.use u).clock = s.clock ∨ (s.use u).clock = s.clock.looked := by
  rcases s.use_cases u with ⟨-, hclock, -⟩ | ⟨_, -, -, -, hclock⟩ | ⟨_, _, -, -, -, -, hclock⟩
  · exact .inl hclock
  · exact .inr hclock
  · exact .inr hclock

@[simp] theorem reading_after (s : Timing τ) (us : List Use) :
    (s.after us).clock.reading = s.clock.reading := by
  induction us generalizing s with
  | nil => rfl
  | cons u us ih =>
    refine (ih (s.use u)).trans ?_
    rcases s.clock_use u with h | h
    · rw [h]
    · rw [h, Clock.looked]

section

variable {name : String} {u : Use}

/-- A use for one name does not touch the others. -/
theorem use_of_ne (s : Timing τ) (h : u.name ≠ name) :
    (s.use u).timer.begun.get? name = s.timer.begun.get? name ∧
      (s.use u).timer.totals.get? name = s.timer.totals.get? name := by
  rcases s.use_cases u with
    ⟨htimer, -⟩ | ⟨other, rfl, -, htimer, -⟩ | ⟨other, since, rfl, -, -, htimer, -⟩
  · rw [htimer]
    exact ⟨rfl, rfl⟩
  · rw [htimer]
    exact ⟨Named.get?_put_of_ne _ h.symm, rfl⟩
  · rw [htimer]
    exact ⟨Named.get?_erase_of_ne h.symm, Named.get?_put_of_ne _ h.symm⟩

theorem returnedFor_use_of_ne (s : Timing τ) (h : u.name ≠ name) :
    (s.use u).returnedFor name = s.returnedFor name := by
  cases u with
  | begin other => rfl
  | stop other =>
    have hother : other ≠ name := h
    simp [use, returnedFor, List.filter_append, hother]

theorem returnedFor_stop (s : Timing τ) (name : String) :
    (s.use (.stop name)).returnedFor name =
      s.returnedFor name ++ [(s.timer.stop name s.clock).2.1] := by
  simp [use, returnedFor, List.filter_append]

theorem begun_after_of_ne (s : Timing τ) {us : List Use} (h : ∀ u ∈ us, u.name ≠ name) :
    (s.after us).timer.begun.get? name = s.timer.begun.get? name := by
  induction us generalizing s with
  | nil => rfl
  | cons u us ih =>
    rw [List.forall_mem_cons] at h
    exact (ih (s.use u) h.2).trans (s.use_of_ne h.1).1

end

/-! ## Which names are running -/

/-- **A name is running if it was begun last**, in a timer that is on. -/
theorem running_after (enabled : Bool) (c : Clock τ) (us : List Use) (name : String) :
    ((start enabled c).after us).timer.running name = true ↔
      enabled = true ∧ (us.filter fun u => u.name = name).getLast? = some (.begin name) := by
  induction us using List.reverseRecOn with
  | nil => exact iff_of_false Bool.false_ne_true fun h => nomatch h.2
  | append_singleton us u ih =>
    have henabled : ((start enabled c).after us).timer.enabled = enabled := enabled_after _ us
    rw [after_concat, List.filter_append]
    by_cases hname : u.name = name
    · rw [List.filter_cons_of_pos (by simpa using hname), List.filter_nil, List.getLast?_concat,
        Timer.running, Named.has]
      rcases ((start enabled c).after us).use_cases u with
        ⟨htimer, -, hoff | ⟨other, rfl, hnone⟩⟩ | ⟨other, rfl, hon, htimer, -⟩ |
        ⟨other, since, rfl, -, -, htimer, -⟩
      · -- a timer that is off has not been running before either
        rw [henabled] at hoff
        rw [htimer]
        exact iff_of_false (fun h => by simp [(ih.1 h).1] at hoff) fun h => by simp [h.1] at hoff
      · obtain rfl : other = name := hname
        rw [htimer, hnone]
        exact iff_of_false nofun fun h => nomatch h.2
      · obtain rfl : other = name := hname
        rw [htimer, Named.get?_put_self]
        exact iff_of_true rfl ⟨henabled ▸ hon, rfl⟩
      · obtain rfl : other = name := hname
        rw [htimer, Named.get?_erase_self]
        exact iff_of_false nofun fun h => nomatch h.2
    · rw [List.filter_cons_of_neg (by simpa using hname), List.filter_nil, List.append_nil, ← ih,
        Timer.running, Named.has, (use_of_ne _ hname).1]
      rfl

/-! ## Before a name is begun -/

/-- A name that nothing is known of. -/
def Untouched (s : Timing τ) (name : String) : Prop :=
  s.timer.begun.get? name = none ∧ s.timer.totals.get? name = none

variable {s : Timing τ} {name : String}

theorem Untouched.use (h : s.Untouched name) {u : Use}
    (hu : s.timer.enabled = false ∨ u ≠ .begin name) : (s.use u).Untouched name := by
  by_cases hname : u.name = name
  · rcases s.use_cases u with ⟨htimer, -⟩ | ⟨other, rfl, hon, -⟩ | ⟨other, since, rfl, -, hsince, -⟩
    · rw [Untouched, htimer]
      exact h
    · obtain rfl : other = name := hname
      exact absurd rfl (hu.resolve_left (by simp [hon]))
    · obtain rfl : other = name := hname
      exact absurd (h.1.symm.trans hsince) nofun
  · rw [Untouched, (s.use_of_ne hname).1, (s.use_of_ne hname).2]
    exact h

/-- Nothing is known of a name before it is begun, nor ever by a timer that is off. -/
theorem Untouched.after {us : List Use} (h : s.Untouched name)
    (hus : s.timer.enabled = false ∨ .begin name ∉ us) : (s.after us).Untouched name := by
  induction us generalizing s with
  | nil => exact h
  | cons u us ih =>
    refine ih (h.use (hus.imp_right fun hus => ?_)) ?_
    · exact (List.ne_of_not_mem_cons hus).symm
    · rw [enabled_use]
      exact hus.imp_right List.not_mem_of_not_mem_cons

omit [NumberSystem τ] in
theorem untouched_start (enabled : Bool) (c : Clock τ) (name : String) :
    (start enabled c).Untouched name := ⟨rfl, rfl⟩

/-! ## After a name is begun -/

/-- A name that has been begun is running, or something has been counted of it. -/
def Met (t : Timer τ) (name : String) : Prop :=
  (t.begun.get? name).isSome = true ∨ (t.totals.get? name).isSome = true

theorem Met.use (h : Met s.timer name) (u : Use) : Met (s.use u).timer name := by
  by_cases hname : u.name = name
  · rcases s.use_cases u with
      ⟨htimer, -⟩ | ⟨other, rfl, -, htimer, -⟩ | ⟨other, since, rfl, -, -, htimer, -⟩
    · rw [htimer]
      exact h
    · obtain rfl : other = name := hname
      rw [htimer]
      exact .inl (by simp)
    · obtain rfl : other = name := hname
      rw [htimer]
      exact .inr (by simp)
  · rw [Met, (s.use_of_ne hname).1, (s.use_of_ne hname).2]
    exact h

theorem Met.isSome_stop {t : Timer τ} (h : Met t name) (hon : t.enabled = true) (c : Clock τ) :
    ((t.stop name c).1.totals.get? name).isSome = true := by
  rcases t.stop_cases name c with ⟨hidle, hstop⟩ | ⟨since, -, -, hstop⟩
  · have hnone : t.begun.get? name = none := hidle.resolve_left (by simp [hon])
    rw [hstop]
    exact h.resolve_left (by simp [hnone])
  · rw [hstop]
    simp

/-! ## Exact readings -/

open Exact

variable {K : Type} [Field K] [LinearOrder K] [SquareRoot K]

theorem sub_eq (x y : K) : NumberSystem.sub (finite x) (finite y) = finite (x - y) :=
  congrArg finite (sub_eq_add_neg x y).symm

/-- **A stop adds to the total what it returns.** -/
theorem total_stop (t : Timer (Exact K)) (name : String) (c : Clock (Exact K)) :
    (t.stop name c).1.total name = t.total name + (t.stop name c).2.1 := by
  rcases t.stop_cases name c with ⟨-, hstop⟩ | ⟨since, -, -, hstop⟩
  · rw [hstop]
    exact (add_zero _).symm
  · rw [hstop, Timer.total, Named.get?_put_self]
    rfl

/-- **A total is the sum of what the stops of the name have returned.** -/
theorem total_after (enabled : Bool) (c : Clock (Exact K)) (us : List Use) (name : String) :
    ((start enabled c).after us).timer.total name =
      (((start enabled c).after us).returnedFor name).sum := by
  induction us using List.reverseRecOn with
  | nil => rfl
  | append_singleton us u ih =>
    rw [after_concat]
    by_cases hname : u.name = name
    · cases u with
      | begin other =>
        rw [use, Timer.total_begin]
        exact ih
      | stop other =>
        obtain rfl : other = name := hname
        rw [returnedFor_stop, List.sum_append, List.sum_singleton, ← ih, ← total_stop]
        rfl
    · rw [Timer.total, (use_of_ne _ hname).2, returnedFor_use_of_ne _ hname]
      exact ih

/-! ## Where the counted stretches lie -/

variable {r : Nat → K} {first : Nat}

/-- How the stretches of a name lie that have been counted, if the name was first begun at the look
`first`.  They are put end to end from there. -/
structure Counted (r : Nat → K) (name : String) (first : Nat) (s : Timing (Exact K)) (total : K) :
    Prop where
  reading : s.clock.reading = fun look => finite (r look)
  counted : s.timer.total name = finite total
  nonneg : 0 ≤ total
  latest : r first + total ≤ r (s.clock.looks - 1)
  running : ∀ since, s.timer.begun.get? name = some since →
    ∃ look < s.clock.looks, since = finite (r look) ∧ r first + total ≤ r look

namespace Counted

variable {s s' : Timing (Exact K)} {total : K}

theorem now_eq (h : Counted r name first s total) : s.clock.now = finite (r s.clock.looks) :=
  congrFun h.reading _

variable (hr : Monotone r)

include hr

theorem latest_le (h : Counted r name first s total) :
    r first + total ≤ r s.clock.looks := h.latest.trans (hr (Nat.sub_le _ _))

/-- A look at the clock in between does not move the stretches. -/
theorem of_clock (h : Counted r name first s total)
    (hclock : s'.clock = s.clock ∨ s'.clock = s.clock.looked)
    (htotal : s'.timer.total name = s.timer.total name)
    (hbegun : s'.timer.begun.get? name = s.timer.begun.get? name) :
    Counted r name first s' total := by
  rcases hclock with hclock | hclock
  · exact ⟨hclock ▸ h.reading, htotal.trans h.counted, h.nonneg, hclock ▸ h.latest,
      fun since hsince => hclock ▸ h.running since (hbegun ▸ hsince)⟩
  · refine ⟨hclock ▸ h.reading, htotal.trans h.counted, h.nonneg, ?_, fun since hsince => ?_⟩
    · rw [hclock]
      exact h.latest_le hr
    · obtain ⟨look, hlook, hsince, hle⟩ := h.running since (hbegun ▸ hsince)
      rw [hclock]
      exact ⟨look, Nat.lt_succ_of_lt hlook, hsince, hle⟩

variable [IsStrictOrderedRing K]

theorem elapsed (h : Counted r name first s total) :
    ∃ x, 0 ≤ x ∧ (s.timer.stop name s.clock).2.1 = finite x := by
  rcases s.timer.stop_cases name s.clock with ⟨-, hstop⟩ | ⟨since, -, hsince, hstop⟩
  · rw [hstop]
    exact ⟨0, le_rfl, rfl⟩
  · obtain ⟨look, hlook, rfl, -⟩ := h.running since hsince
    rw [hstop]
    exact ⟨r s.clock.looks - r look, sub_nonneg.2 (hr hlook.le), by rw [h.now_eq, sub_eq]⟩

/-- **Every use keeps the counted stretches in their place**, one after the other. -/
theorem use (h : Counted r name first s total) (u : Use) :
    ∃ total', Counted r name first (s.use u) total' := by
  by_cases hname : u.name = name
  · rcases s.use_cases u with ⟨htimer, hclock, -⟩ | ⟨other, rfl, -, htimer, hclock⟩ |
      ⟨other, since, rfl, -, hsince, htimer, hclock⟩
    · exact ⟨total, h.of_clock hr (.inl hclock) (by rw [htimer]) (by rw [htimer])⟩
    · obtain rfl : other = name := hname
      refine ⟨total, hclock ▸ h.reading, htimer ▸ h.counted, h.nonneg, ?_, fun since hsince => ?_⟩
      · rw [hclock]
        exact h.latest_le hr
      · rw [htimer, Named.get?_put_self, Option.some.injEq] at hsince
        rw [hclock]
        exact ⟨s.clock.looks, Nat.lt_succ_self _, hsince.symm.trans h.now_eq, h.latest_le hr⟩
    · obtain rfl : other = name := hname
      obtain ⟨look, hlook, rfl, hle⟩ := h.running since hsince
      have hpassed : r look ≤ r s.clock.looks := hr hlook.le
      refine ⟨total + (r s.clock.looks - r look), hclock ▸ h.reading, ?_, ?_, ?_, ?_⟩
      · rw [htimer, Timer.total, Named.get?_put_self, Option.getD_some, h.now_eq, sub_eq, h.counted]
        rfl
      · exact add_nonneg h.nonneg (sub_nonneg.2 hpassed)
      · rw [hclock]
        change r first + (total + (r s.clock.looks - r look)) ≤ r s.clock.looks
        linarith
      · rw [htimer, Named.get?_erase_self]
        exact nofun
  · obtain ⟨hbegun, htotals⟩ := s.use_of_ne hname
    exact ⟨total, h.of_clock hr (s.clock_use u) (by rw [Timer.total, htotals]; rfl) hbegun⟩

theorem after (h : Counted r name first s total) (us : List Use) :
    ∃ total', Counted r name first (s.after us) total' := by
  induction us generalizing s total with
  | nil => exact ⟨total, h⟩
  | cons u us ih =>
    obtain ⟨total', h'⟩ := h.use hr u
    exact ih h'

end Counted

theorem Untouched.counted {s : Timing (Exact K)} (h : s.Untouched name)
    (hon : s.timer.enabled = true) (hreading : s.clock.reading = fun look => finite (r look)) :
    Counted r name s.clock.looks (s.use (.begin name)) 0 := by
  rw [Timing.use, Timer.begin_enabled hon]
  refine ⟨hreading, ?_, le_rfl, (add_zero _).le, fun since hsince => ?_⟩
  · change (s.timer.totals.get? name).getD _ = _
    rw [h.2]
    rfl
  · rw [Named.get?_put_self, Option.some.injEq] at hsince
    exact ⟨s.clock.looks, Nat.lt_succ_self _, hsince.symm.trans (congrFun hreading _),
      (add_zero _).le⟩

/-! ## The accounts of a timer -/

/-- A timer that has been used, by a clock with exact readings. -/
def used (r : Nat → K) (looks : Nat) (enabled : Bool) (us : List Use) : Timing (Exact K) :=
  (start enabled (.showing r looks)).after us

theorem counted_used [IsStrictOrderedRing K] (hr : Monotone r) (looks : Nat) (front back : List Use)
    (hfront : .begin name ∉ front) :
    ∃ total, Counted r name (used r looks true front).clock.looks
      (used r looks true (front ++ .begin name :: back)) total := by
  have huntouched : (used r looks true front).Untouched name :=
    (untouched_start true _ name).after (.inr hfront)
  have hbegun := huntouched.counted (r := r) (enabled_after _ front) (reading_after _ front)
  obtain ⟨total, hcounted⟩ := hbegun.after hr back
  refine ⟨total, ?_⟩
  rw [show used r looks true (front ++ .begin name :: back) =
    ((used r looks true front).use (.begin name)).after back from after_append _ _ _]
  exact hcounted

/-- Nothing is known of a name, or it has been begun, and there is a first time. -/
theorem untouched_or_counted [IsStrictOrderedRing K] (hr : Monotone r) (looks : Nat)
    (enabled : Bool) (us : List Use) (name : String) :
    (used r looks enabled us).Untouched name ∨ ∃ front back total,
      us = front ++ .begin name :: back ∧ .begin name ∉ front ∧
      Counted r name (used r looks enabled front).clock.looks (used r looks enabled us) total := by
  by_cases h : enabled = false ∨ .begin name ∉ us
  · exact .inl ((untouched_start enabled _ name).after h)
  · rw [not_or, not_not, Bool.not_eq_false] at h
    obtain ⟨rfl, hmem⟩ := h
    obtain ⟨front, back, rfl, hfront⟩ := List.eq_append_cons_of_mem hmem
    obtain ⟨total, hcounted⟩ := counted_used hr looks front back hfront
    exact .inr ⟨front, back, total, rfl, hfront, hcounted⟩

theorem now_used (looks : Nat) (enabled : Bool) (us : List Use) :
    (used r looks enabled us).clock.now = finite (r (used r looks enabled us).clock.looks) :=
  congrFun (reading_after _ us) _

/-- **What a stop returns**: the time since the name was begun last. -/
theorem elapsed_used (looks : Nat) {front back : List Use} (h : ∀ u ∈ back, u.name ≠ name)
    {s : Timing (Exact K)} (hs : s = used r looks true (front ++ .begin name :: back)) :
    (s.timer.stop name s.clock).2.1 =
      finite (r s.clock.looks - r (used r looks true front).clock.looks) := by
  have hon : ∀ us, (used r looks true us).timer.enabled = true := enabled_after _
  have hnow : s.clock.now = finite (r s.clock.looks) := hs ▸ now_used looks true _
  have hbegun : s.timer.begun.get? name =
      some (finite (r (used r looks true front).clock.looks)) := by
    rw [hs, used, after_append]
    refine (begun_after_of_ne ((used r looks true front).use (.begin name)) h).trans ?_
    rw [use, Timer.begin_enabled (hon front), ← now_used]
    exact Named.get?_put_self _ _ _
  rcases s.timer.stop_cases name s.clock with ⟨hoff | hnone, -⟩ | ⟨since, -, hsince, hstop⟩
  · exact absurd ((hs ▸ hon _).symm.trans hoff) nofun
  · exact absurd (hbegun.symm.trans hnone) nofun
  · rw [hstop, hnow, Option.some.inj (hsince.symm.trans hbegun), sub_eq]

/-- The accounts of one name, in a timer that has been used. -/
structure Accounts (r : Nat → K) (looks : Nat) (enabled : Bool) (us : List Use) (name : String)
    (s : Timing (Exact K)) : Prop where
  /-- A stop returns a time, which is not negative. -/
  elapsed : ∃ x, 0 ≤ x ∧ (s.timer.stop name s.clock).2.1 = finite x
  idle : s.timer.running name = false → (s.timer.stop name s.clock).2.1 = finite 0
  /-- The time that is returned is the time since the name was begun last. -/
  measured : enabled = true → ∀ front back, us = front ++ .begin name :: back →
    (∀ u ∈ back, u.name ≠ name) → (s.timer.stop name s.clock).2.1 =
      finite (r s.clock.looks - r (used r looks enabled front).clock.looks)
  total : s.timer.total name = (s.returnedFor name).sum
  running : s.timer.running name = true ↔
    enabled = true ∧ (us.filter fun u => u.name = name).getLast? = some (.begin name)
  /-- A total lies between the first beginning of the name and the latest reading. -/
  within : ∀ v, s.timer.totals.get? name = some v → ∃ front back x,
    us = front ++ .begin name :: back ∧ .begin name ∉ front ∧ v = finite x ∧ 0 ≤ x ∧
      x ≤ r (s.clock.looks - 1) - r (used r looks enabled front).clock.looks

/-- **A timer counts no time twice**, whatever is done with it and in whatever order. -/
theorem accounts [IsStrictOrderedRing K] (hr : Monotone r) (looks : Nat) (enabled : Bool)
    (us : List Use) (name : String) :
    Accounts r looks enabled us name (used r looks enabled us) where
  elapsed := by
    rcases untouched_or_counted hr looks enabled us name with h | ⟨front, back, total, -, -, h⟩
    · rw [Timer.stop, h.1]
      exact ⟨0, le_rfl, rfl⟩
    · exact h.elapsed hr
  idle := by
    intro h
    rcases (used r looks enabled us).timer.stop_cases name (used r looks enabled us).clock
      with ⟨-, hstop⟩ | ⟨since, -, hsince, -⟩
    · rw [hstop]
      rfl
    · simp [Timer.running, Named.has, hsince] at h
  measured := by
    rintro rfl front back rfl hback
    exact elapsed_used looks hback rfl
  total := total_after enabled _ us name
  running := running_after enabled _ us name
  within := by
    intro v hv
    rcases untouched_or_counted hr looks enabled us name with
      h | ⟨front, back, total, hus, hfront, h⟩
    · exact absurd (h.2.symm.trans hv) nofun
    · have htotal : v = finite total := by
        rw [← h.counted, Timer.total, hv]
        rfl
      exact ⟨front, back, total, hus, hfront, htotal, h.nonneg, by linarith [h.latest]⟩

end Timing
end PassiveAggressive
