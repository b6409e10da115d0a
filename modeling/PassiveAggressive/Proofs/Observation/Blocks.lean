import Mathlib.Data.Real.Basic
import PassiveAggressive.Observation.Instrumentation
import PassiveAggressive.Proofs.Exact.Root
import PassiveAggressive.Proofs.Observation.Timing

/-!
# Blocks of work

Work is timed in blocks, one inside the other, under one name or several.  A block is left when
its work fails as it is when the work is done, so what is entered and what is left are nested
however the work ends (`Work.nested_steps`).

Two places keep accounts of a block: the timer its total, and the timeline what is recorded.  The
timer is used as in `Timing`, by beginnings and stops that come in pairs here, so its accounts
hold of blocks as well (`Instrumentation.after_timer`).  The timeline never has more than the
timer, since it adds what a stop returns or nothing (`Instrumentation.covered_after`).

The pairs do not help with the times: when a block is inside another one of the same name, the
inner one takes the outer one's beginning, and the outer one returns nothing.  They are needed for
three other things: that no name is running in the end, that a name is entered before it is left,
and that the timeline has an entry for a name only if the timer has one.
-/

namespace PassiveAggressive

open Timer (Use)

namespace Instrumentation

variable {τ : Type}

/-! ## Steps -/

/-- What becomes of a block. -/
inductive Step where
  | enter (name : String)
  | leave (name : String) (recorded : Bool)
  deriving DecidableEq

/-- What it is to the timer. -/
def Step.use : Step → Use
  | enter name => .begin name
  | leave name _ => .stop name

variable [NumberSystem τ]

/-- Enters a block, or leaves it. -/
def take (s : Instrumentation τ × Clock τ) : Step → Instrumentation τ × Clock τ
  | .enter name => s.1.enter name s.2
  | .leave name recorded => s.1.leave name recorded s.2

/-- Enters and leaves blocks. -/
def after (s : Instrumentation τ × Clock τ) (steps : List Step) : Instrumentation τ × Clock τ :=
  steps.foldl take s

/-- The time that is recorded for a name. -/
def spent (i : Instrumentation τ) (name : String) : τ :=
  (i.timeline.get? name).getD NumberSystem.zero

theorem after_append (s : Instrumentation τ × Clock τ) (xs ys : List Step) :
    after s (xs ++ ys) = after (after s xs) ys := List.foldl_append

theorem after_concat (s : Instrumentation τ × Clock τ) (xs : List Step) (step : Step) :
    after s (xs ++ [step]) = take (after s xs) step := after_append s xs [step]

/-! ## Instrumentation that is not on -/

variable {s : Instrumentation τ × Clock τ}

theorem take_off (h : s.1.presence ≠ .on) (step : Step) : take s step = s := by
  cases step with
  | enter name => exact if_neg h
  | leave name recorded => exact if_neg h

theorem after_off (h : s.1.presence ≠ .on) (steps : List Step) : after s steps = s := by
  induction steps with
  | nil => rfl
  | cons step steps ih =>
    change after (take s step) steps = s
    rw [take_off h, ih]

/-! ## Instrumentation that is on -/

theorem take_enter (h : s.1.presence = .on) (name : String) :
    take s (.enter name) =
      ({ s.1 with timer := (s.1.timer.begin name s.2).1 }, (s.1.timer.begin name s.2).2) := if_pos h

theorem take_leave (h : s.1.presence = .on) (name : String) (recorded : Bool) :
    take s (.leave name recorded) =
      ({ s.1 with
          timer := (s.1.timer.stop name s.2).1
          timeline := if recorded then
            s.1.timeline.put name (NumberSystem.add (s.1.spent name) (s.1.timer.stop name s.2).2.1)
            else s.1.timeline },
        (s.1.timer.stop name s.2).2.2) := if_pos h

@[simp] theorem presence_take (s : Instrumentation τ × Clock τ) (step : Step) :
    (take s step).1.presence = s.1.presence := by
  by_cases h : s.1.presence = .on
  · cases step with
    | enter name => rw [take_enter h]
    | leave name recorded => rw [take_leave h]
  · rw [take_off h]

@[simp] theorem presence_after (s : Instrumentation τ × Clock τ) (steps : List Step) :
    (after s steps).1.presence = s.1.presence := by
  induction steps generalizing s with
  | nil => rfl
  | cons step steps ih => exact (ih (take s step)).trans (presence_take s step)

/-- The timer is used, and the clock looked at, as the step says. -/
theorem take_timer (h : s.1.presence = .on) (returned : List (String × τ)) (step : Step) :
    (take s step).1.timer = (Timing.use ⟨s.1.timer, s.2, returned⟩ step.use).timer ∧
      (take s step).2 = (Timing.use ⟨s.1.timer, s.2, returned⟩ step.use).clock := by
  cases step with
  | enter name =>
    rw [take_enter h]
    exact ⟨rfl, rfl⟩
  | leave name recorded =>
    rw [take_leave h]
    exact ⟨rfl, rfl⟩

/-- **The blocks are to the timer what its uses are**, whatever the order of the steps. -/
theorem after_timer (c : Clock τ) (steps : List Step) :
    (after (new .on, c) steps).1.timer = ((Timing.start true c).after (steps.map Step.use)).timer ∧
      (after (new .on, c) steps).2 =
        ((Timing.start true c).after (steps.map Step.use)).clock := by
  induction steps using List.reverseRecOn with
  | nil => exact ⟨rfl, rfl⟩
  | append_singleton steps step ih =>
    rw [List.map_append, List.map_singleton, Timing.after_concat, after_concat]
    have hon : (after (new .on, c) steps).1.presence = .on := presence_after _ _
    have hstep := take_timer hon ((Timing.start true c).after (steps.map Step.use)).returned step
    rw [ih.1, ih.2] at hstep
    exact hstep

section

variable {name : String}

/-- A block of one name does not touch the accounts of the others. -/
theorem take_of_ne (s : Instrumentation τ × Clock τ) (step : Step) (h : step.use.name ≠ name) :
    (take s step).1.timeline.get? name = s.1.timeline.get? name ∧
      (take s step).1.timer.totals.get? name = s.1.timer.totals.get? name := by
  by_cases hon : s.1.presence = .on
  · rw [(take_timer hon [] step).1, (Timing.use_of_ne _ h).2]
    refine ⟨?_, rfl⟩
    cases step with
    | enter other => rw [take_enter hon]
    | leave other recorded =>
      rw [take_leave hon]
      dsimp only
      split
      · exact Named.get?_put_of_ne _ (Ne.symm h)
      · rfl
  · rw [take_off hon]
    exact ⟨rfl, rfl⟩

/-- A block comes into the timeline if it is recorded. -/
theorem isSome_timeline_take (hon : s.1.presence = .on) (step : Step) :
    ((take s step).1.timeline.get? name).isSome = true ↔
      (s.1.timeline.get? name).isSome = true ∨ step = .leave name true := by
  cases step with
  | enter other =>
    rw [take_enter hon]
    simp
  | leave other recorded =>
    rw [take_leave hon]
    cases recorded with
    | false => simp
    | true =>
      by_cases hname : other = name
      · simp [hname]
      · simp [hname, Named.get?_put_of_ne _ (Ne.symm hname)]

/-- **The timeline has the names of the blocks that are recorded**, and no others. -/
theorem isSome_timeline_after (hon : s.1.presence = .on) (steps : List Step) :
    ((after s steps).1.timeline.get? name).isSome = true ↔
      (s.1.timeline.get? name).isSome = true ∨ .leave name true ∈ steps := by
  induction steps generalizing s with
  | nil => simp [after]
  | cons step steps ih =>
    refine (ih ((presence_take s step).trans hon)).trans ?_
    rw [isSome_timeline_take hon, List.mem_cons, or_assoc, @eq_comm _ step]

end

/-- Instrumentation that is on, and its timer with it. -/
structure IsOn (i : Instrumentation τ) : Prop where
  presence : i.presence = .on
  enabled : i.timer.enabled = true

omit [NumberSystem τ] in
theorem isOn_new : (new .on : Instrumentation τ).IsOn := ⟨rfl, rfl⟩

theorem IsOn.take (h : s.1.IsOn) (step : Step) : (take s step).1.IsOn := by
  refine ⟨(presence_take s step).trans h.presence, ?_⟩
  rw [(take_timer h.presence [] step).1, Timing.enabled_use]
  exact h.enabled

theorem IsOn.after (h : s.1.IsOn) (steps : List Step) : (after s steps).1.IsOn := by
  induction steps generalizing s with
  | nil => exact h
  | cons step steps ih => exact ih (h.take step)

theorem met_enter (h : s.1.IsOn) (name : String) :
    Timing.Met (Instrumentation.take s (.enter name)).1.timer name := by
  rw [take_enter h.presence, Timer.begin_enabled h.enabled]
  exact .inl (by simp)

theorem met_after {name : String} (h : s.1.IsOn) (hmet : Timing.Met s.1.timer name)
    (steps : List Step) : Timing.Met (Instrumentation.after s steps).1.timer name := by
  induction steps generalizing s with
  | nil => exact hmet
  | cons step steps ih =>
    refine ih (h.take step) ?_
    rw [(take_timer h.presence [] step).1]
    exact hmet.use step.use

end Instrumentation

/-! ## Nested steps -/

open Instrumentation

/-- Steps in which every block that is entered is left, the inner ones before the outer ones. -/
inductive Nested : List Step → Prop
  | nil : Nested []
  | append {xs ys : List Step} : Nested xs → Nested ys → Nested (xs ++ ys)
  | block {xs : List Step} (name : String) (recorded : Bool) :
      Nested xs → Nested (.enter name :: (xs ++ [.leave name recorded]))

namespace Nested

variable {τ : Type} [NumberSystem τ] {steps : List Step} {name : String}

/-- A name is not entered last. -/
theorem getLast?_ne (h : Nested steps) (name : String) :
    ((steps.map Step.use).filter fun u => u.name = name).getLast? ≠ some (.begin name) := by
  induction h with
  | nil => exact nofun
  | append _ _ ihx ihy =>
    rw [List.map_append, List.filter_append, List.getLast?_append, Ne, Option.or_eq_some_iff,
      not_or]
    exact ⟨ihy, fun h => ihx h.2⟩
  | @block xs other recorded _ ih =>
    by_cases hname : other = name
    · subst hname
      have hlast : ((Step.enter other :: (xs ++ [Step.leave other recorded])).map Step.use).filter
          (fun u => u.name = other) = .begin other ::
            (((xs.map Step.use).filter fun u => u.name = other) ++ [.stop other]) := by
        simp [Step.use, Use.name]
      rw [hlast, ← List.cons_append, List.getLast?_concat]
      exact nofun
    · have hsame : ((Step.enter other :: (xs ++ [Step.leave other recorded])).map Step.use).filter
          (fun u => u.name = name) = (xs.map Step.use).filter fun u => u.name = name := by
        simp [Step.use, Use.name, hname]
      rw [hsame]
      exact ih

/-- A name is entered if it is left. -/
theorem enter_mem (h : Nested steps) {recorded : Bool} (hleave : .leave name recorded ∈ steps) :
    .enter name ∈ steps := by
  induction h with
  | nil => exact nomatch hleave
  | append _ _ ihx ihy =>
    rcases List.mem_append.1 hleave with hleave | hleave
    · exact List.mem_append_left _ (ihx hleave)
    · exact List.mem_append_right _ (ihy hleave)
  | block other _ _ ih =>
    rcases List.mem_cons.1 hleave with hleave | hleave
    · exact nomatch hleave
    rcases List.mem_append.1 hleave with hleave | hleave
    · exact List.mem_cons_of_mem _ (List.mem_append_left _ (ih hleave))
    · cases List.mem_singleton.1 hleave
      exact List.mem_cons_self

end Nested

/-! ## Work -/

/-- Work that is timed in blocks.  By itself it is done or has failed; more of it comes after it
is done, or in its place when it has failed. -/
inductive Work where
  | done
  | failed
  | andThen (first second : Work)
  | orElse (first second : Work)
  | block (name : String) (recorded : Bool) (body : Work)

namespace Work

variable {τ : Type} [NumberSystem τ]

/-- Whether the work is done, and what becomes of the instrumentation and the clock.  A block is
left whether its body is done or has failed. -/
def run : Work → Instrumentation τ × Clock τ → Bool × Instrumentation τ × Clock τ
  | done, s => (true, s)
  | failed, s => (false, s)
  | andThen first second, s =>
    match first.run s with
    | (true, s) => second.run s
    | (false, s) => (false, s)
  | orElse first second, s =>
    match first.run s with
    | (true, s) => (true, s)
    | (false, s) => second.run s
  | block name recorded body, s =>
    let (isDone, s) := body.run (s.1.enter name s.2)
    (isDone, s.1.leave name recorded s.2)

/-- Whether the work is done. -/
def isDone : Work → Bool
  | done => true
  | failed => false
  | andThen first second => first.isDone && second.isDone
  | orElse first second => first.isDone || second.isDone
  | block _ _ body => body.isDone

/-- The blocks that are entered and left, in the order in which that happens. -/
def steps : Work → List Step
  | done | failed => []
  | andThen first second => first.steps ++ if first.isDone then second.steps else []
  | orElse first second => first.steps ++ if first.isDone then [] else second.steps
  | block name recorded body => .enter name :: (body.steps ++ [.leave name recorded])

theorem run_eq (w : Work) (s : Instrumentation τ × Clock τ) :
    w.run s = (w.isDone, after s w.steps) := by
  induction w generalizing s with
  | done | failed => rfl
  | andThen first second ihfirst ihsecond =>
    rw [run, ihfirst, isDone, steps, after_append]
    cases first.isDone with
    | true => exact ihsecond _
    | false => rfl
  | orElse first second ihfirst ihsecond =>
    rw [run, ihfirst, isDone, steps, after_append]
    cases first.isDone with
    | true => rfl
    | false => exact ihsecond _
  | block name recorded body ih =>
    rw [run, ih]
    exact congrArg (Prod.mk _) (after_concat (take s (.enter name)) body.steps
      (.leave name recorded)).symm

/-- **Blocks are nested, whether or not their work fails.** -/
theorem nested_steps : ∀ w : Work, Nested w.steps
  | done | failed => .nil
  | andThen first second => by
    rw [steps]
    split
    · exact first.nested_steps.append second.nested_steps
    · exact first.nested_steps.append .nil
  | orElse first second => by
    rw [steps]
    split
    · exact first.nested_steps.append .nil
    · exact first.nested_steps.append second.nested_steps
  | block name recorded body => .block name recorded body.nested_steps

end Work

/-! ## The timeline beside the totals -/

open Exact

variable {K : Type} [Field K] [LinearOrder K] [SquareRoot K]

/-- The timeline has of a name what the timer has. -/
def Instrumentation.Agrees (i : Instrumentation (Exact K)) (name : String) : Prop :=
  i.timeline.get? name = i.timer.totals.get? name

section

variable {s : Instrumentation (Exact K) × Clock (Exact K)} {name : String}

namespace Instrumentation

theorem Agrees.enter (h : s.1.Agrees name) (hon : s.1.IsOn) (other : String) :
    (take s (.enter other)).1.Agrees name := by
  rw [take_enter hon.presence, Timer.begin_enabled hon.enabled]
  exact h

/-- A block that is recorded adds the same to the timeline as to the total. -/
theorem Agrees.leave (h : s.1.Agrees name) (hon : s.1.IsOn) (hmet : Timing.Met s.1.timer name) :
    (take s (.leave name true)).1.Agrees name := by
  have hspent : s.1.spent name = s.1.timer.total name := congrArg (Option.getD · _) h
  obtain ⟨v, hv⟩ := Option.isSome_iff_exists.1 (hmet.isSome_stop hon.enabled s.2)
  have htotal : v = s.1.timer.total name + (s.1.timer.stop name s.2).2.1 := by
    rw [← Timing.total_stop, Timer.total, hv, Option.getD_some]
  rw [Agrees, take_leave hon.presence]
  dsimp only
  rw [if_pos rfl, Named.get?_put_self, hv, htotal, hspent]
  rfl

theorem Agrees.leave_of_ne (h : s.1.Agrees name) {other : String} (hname : other ≠ name)
    (recorded : Bool) : (take s (.leave other recorded)).1.Agrees name := by
  obtain ⟨htimeline, htotals⟩ := take_of_ne s (.leave other recorded) hname
  exact htimeline.trans (h.trans htotals.symm)

end Instrumentation

/-- **Nested blocks keep the timeline and the timer in agreement** on a name under which all are
recorded. -/
theorem Nested.agrees {steps : List Step} (hsteps : Nested steps)
    (hall : .leave name false ∉ steps) (hon : s.1.IsOn) (h : s.1.Agrees name) :
    (after s steps).1.Agrees name := by
  induction hsteps generalizing s with
  | nil => exact h
  | append _ _ ihx ihy =>
    rw [List.mem_append, not_or] at hall
    rw [after_append]
    exact ihy hall.2 (hon.after _) (ihx hall.1 hon h)
  | @block xs other recorded _ ih =>
    rw [List.mem_cons, List.mem_append, List.mem_singleton, not_or, not_or] at hall
    have hbody : (after (take s (.enter other)) xs).1.Agrees name :=
      ih hall.2.1 (hon.take _) (h.enter hon other)
    change (after (take s (.enter other)) (xs ++ [.leave other recorded])).1.Agrees name
    rw [after_concat]
    by_cases hname : other = name
    · subst hname
      have hrecorded : recorded = true := by
        cases recorded with
        | true => rfl
        | false => exact absurd rfl hall.2.2
      rw [hrecorded]
      exact hbody.leave ((hon.take _).after xs) (met_after (hon.take _) (met_enter hon other) xs)
    · exact hbody.leave_of_ne hname recorded

/-- No more is recorded of a name than counted. -/
def Instrumentation.Covered (i : Instrumentation (Exact K)) (name : String) : Prop :=
  ∃ x total, 0 ≤ x ∧ x ≤ total ∧ i.spent name = finite x ∧ i.timer.total name = finite total

variable [IsStrictOrderedRing K]

/-- A block adds a time to the total, and the same to the timeline or nothing. -/
theorem Instrumentation.Covered.take (h : s.1.Covered name) (hon : s.1.IsOn)
    (hstop : ∃ x, 0 ≤ x ∧ (s.1.timer.stop name s.2).2.1 = finite x) (step : Step) :
    (take s step).1.Covered name := by
  obtain ⟨x, total, hx, hle, hspent, htotal⟩ := h
  obtain ⟨elapsed, helapsed, hstop⟩ := hstop
  by_cases hname : step.use.name = name
  · cases step with
    | enter other =>
      rw [take_enter hon.presence]
      exact ⟨x, total, hx, hle, hspent, (s.1.timer.total_begin other name s.2).trans htotal⟩
    | leave other recorded =>
      obtain rfl : other = name := hname
      have htotal' : (s.1.timer.stop other s.2).1.total other = finite (total + elapsed) := by
        rw [Timing.total_stop, htotal, hstop]
        rfl
      rw [take_leave hon.presence]
      cases recorded with
      | true =>
        refine ⟨x + elapsed, total + elapsed, add_nonneg hx helapsed,
          add_le_add_left hle elapsed, ?_, htotal'⟩
        rw [spent, if_pos rfl, Named.get?_put_self, Option.getD_some, hspent, hstop]
        rfl
      | false =>
        exact ⟨x, total + elapsed, hx, le_add_of_le_of_nonneg hle helapsed, hspent, htotal'⟩
  · obtain ⟨htimeline, htotals⟩ := take_of_ne s step hname
    refine ⟨x, total, hx, hle, ?_, ?_⟩
    · rw [spent, htimeline]
      exact hspent
    · rw [Timer.total, htotals]
      exact htotal

end

variable [IsStrictOrderedRing K] {r : Nat → K} (hr : Monotone r) (looks : Nat)

include hr

/-- **No more is recorded than counted**, whatever the order of the steps. -/
theorem Instrumentation.covered_after (steps : List Step) (name : String) :
    (after (new .on, .showing r looks) steps).1.Covered name := by
  induction steps using List.reverseRecOn with
  | nil => exact ⟨0, 0, le_rfl, le_rfl, rfl, rfl⟩
  | append_singleton steps step ih =>
    have hstop := (Timing.accounts hr looks true (steps.map Step.use) name).elapsed
    rw [Timing.used, ← (after_timer _ steps).1, ← (after_timer _ steps).2] at hstop
    rw [after_concat]
    exact ih.take (isOn_new.after steps) hstop step

omit hr

/-! ## The accounts of work -/

/-- The accounts of one name, after work on new instrumentation. -/
structure Work.Accounts (r : Nat → K) (looks : Nat) (presence : Presence) (w : Work) (name : String)
    (s : Instrumentation (Exact K) × Clock (Exact K)) : Prop where
  steps : s = after (new presence, .showing r looks) w.steps
  timer : presence = .on → s.1.timer = (Timing.used r looks true (w.steps.map Step.use)).timer
  running : s.1.timer.running name = false
  /-- The timeline has a name if a block of that name is recorded, and not otherwise. -/
  listed : (s.1.timeline.get? name).isSome = true ↔ presence = .on ∧ .leave name true ∈ w.steps
  /-- What is recorded lies between the first time the name is entered and the latest reading. -/
  within : ∀ v, s.1.timeline.get? name = some v → ∃ front back x,
    w.steps = front ++ .enter name :: back ∧ .enter name ∉ front ∧ v = finite x ∧ 0 ≤ x ∧
      x ≤ r (s.2.looks - 1) - r (after (new presence, .showing r looks) front).2.looks
  recorded : .leave name false ∉ w.steps → s.1.timeline.get? name = s.1.timer.totals.get? name

include hr

/-- What is recorded of a name that has been entered. -/
theorem Instrumentation.spent_within (front back : List Step) {name : String}
    (hfront : .enter name ∉ front) : ∃ x, 0 ≤ x ∧
      (after (new .on, .showing r looks) (front ++ .enter name :: back)).1.spent name = finite x ∧
      x ≤ r ((after (new .on, .showing r looks) (front ++ .enter name :: back)).2.looks - 1) -
        r (after (new .on, .showing r looks) front).2.looks := by
  have hbegin : Use.begin name ∉ front.map Step.use := fun h => by
    obtain ⟨step, hstep, huse⟩ := List.mem_map.1 h
    cases step with
    | enter other => exact hfront (Use.begin.inj huse ▸ hstep)
    | leave other recorded => exact nomatch huse
  obtain ⟨x, total, hx, hle, hspent, htotal⟩ :=
    covered_after hr looks (front ++ .enter name :: back) name
  obtain ⟨total', hcounted⟩ :=
    Timing.counted_used hr looks (front.map Step.use) (back.map Step.use) hbegin
  have huses : (front ++ Step.enter name :: back).map Step.use =
      front.map Step.use ++ .begin name :: back.map Step.use := List.map_append
  have hsame : finite total = finite total' := by
    rw [← htotal, (after_timer _ _).1, huses]
    exact hcounted.counted
  have hlatest := hcounted.latest
  rw [← Exact.finite.inj hsame] at hlatest
  refine ⟨x, hx, hspent, ?_⟩
  rw [(after_timer _ front).2, (after_timer _ (front ++ _)).2, huses]
  exact hle.trans (le_sub_iff_add_le'.2 hlatest)

/-- **Work in blocks counts no time twice**, in instrumentation that is on, off or absent. -/
theorem Work.accounts (presence : Presence) (w : Work) (name : String) :
    Work.Accounts r looks presence w name (w.run (new presence, .showing r looks)).2 := by
  rw [run_eq]
  by_cases hpresence : presence = .on
  · subst hpresence
    have hlisted : ((after (new .on, .showing r looks) w.steps).1.timeline.get? name).isSome =
        true ↔ .leave name true ∈ w.steps :=
      (isSome_timeline_after rfl w.steps).trans (by simp [new])
    refine ⟨rfl, fun _ => (after_timer _ _).1, ?_, ?_, fun v hv => ?_,
      fun h => w.nested_steps.agrees h isOn_new rfl⟩
    · rw [(after_timer _ _).1, Bool.eq_false_iff, Ne, Timing.running_after]
      exact fun h => w.nested_steps.getLast?_ne name h.2
    · simpa using hlisted
    · obtain ⟨front, back, hsteps, hfront⟩ := List.eq_append_cons_of_mem
        (w.nested_steps.enter_mem (hlisted.1 (Option.isSome_of_eq_some hv)))
      obtain ⟨x, hx, hspent, hle⟩ := spent_within hr looks front back hfront
      rw [← hsteps] at hspent hle
      refine ⟨front, back, x, hsteps, hfront, ?_, hx, hle⟩
      rw [← hspent, spent]
      exact (congrArg (Option.getD · _) hv).symm
  · rw [after_off hpresence]
    exact ⟨(after_off hpresence _).symm, fun h => absurd h hpresence, rfl,
      iff_of_false nofun fun h => hpresence h.1, fun v hv => (nomatch hv), fun _ => rfl⟩

/-- **No time is counted twice.**  By a clock whose readings never decrease, the accounts of every
name are in order: those of a timer after any uses, on or off, and those of work in any blocks,
in instrumentation that is on, off or absent. -/
theorem Timing.never_counts_twice (name : String) :
    (∀ (enabled : Bool) (us : List Use),
      Timing.Accounts r looks enabled us name (Timing.used r looks enabled us)) ∧
    ∀ (presence : Presence) (w : Work),
      Work.Accounts r looks presence w name (w.run (new presence, .showing r looks)).2 :=
  ⟨fun enabled us => Timing.accounts hr looks enabled us name,
    fun presence w => w.accounts hr looks presence name⟩

omit hr

/-- A name that is begun twice, and another one in between. -/
def Timing.overlapping : List Use := [.begin "a", .begin "b", .begin "a", .stop "a"]

/-- A block inside another one of the same name, whose work fails. -/
def Work.failedTwice : Work := .block "a" true (.block "a" true .failed)

/-- Names that overlap, and a block inside a block, by a clock that counts its looks. -/
theorem Timing.never_counts_twice_overlapping :
    Monotone (Nat.cast : Nat → ℝ) ∧
    (Timing.used (Nat.cast : Nat → ℝ) 0 true overlapping).timer.running "a" = false ∧
    (Timing.used (Nat.cast : Nat → ℝ) 0 true overlapping).timer.running "b" = true ∧
    ∃ x : ℝ, 0 ≤ x ∧ x ≤ 2 ∧
      (Work.failedTwice.run (new .on, .showing Nat.cast 0)).2.1.timeline.get? "a" =
        some (finite x) ∧
      (Work.failedTwice.run (new .on, .showing Nat.cast 0)).2.1.timer.totals.get? "a" =
        some (finite x) := by
  have hr : Monotone (Nat.cast : Nat → ℝ) := Nat.mono_cast
  obtain ⟨huses, hwork⟩ := Timing.never_counts_twice hr 0 "a"
  have hb := (Timing.never_counts_twice hr 0 "b").1 true overlapping
  have ha := huses true overlapping
  have hblocks := hwork .on Work.failedTwice
  obtain ⟨v, hv⟩ : ∃ v, (Work.failedTwice.run
      (new .on, .showing (Nat.cast : Nat → ℝ) 0)).2.1.timeline.get? "a" = some v := ⟨_, rfl⟩
  obtain ⟨front, back, x, hsteps, hfront, rfl, hx, hle⟩ := hblocks.within v hv
  refine ⟨hr, ?_, hb.running.2 (by decide), x, hx, hle.trans ?_, hv,
    (hblocks.recorded (by decide)).symm.trans hv⟩
  · rw [Bool.eq_false_iff, Ne, ha.running]
    decide
  · -- the latest of three readings
    change (Nat.cast 2 : ℝ) - _ ≤ 2
    rw [Nat.cast_ofNat, sub_le_self_iff]
    exact Nat.cast_nonneg _

/-- A timer that is off does not run what is begun. -/
theorem Timing.not_running_begun_off :
    ¬((Timing.used (Nat.cast : Nat → ℝ) 0 false [.begin "a"]).timer.running "a" = true ↔
      ([Use.begin "a"].filter fun u => u.name = "a").getLast? = some (.begin "a")) :=
  fun h => Bool.false_ne_true (h.2 rfl)

end PassiveAggressive
