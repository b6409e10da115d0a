import Mathlib.Algebra.BigOperators.Group.List.Basic
import Mathlib.Data.List.Forall2
import PassiveAggressive.Proofs.Exact.Distance
import PassiveAggressive.Proofs.Exact.Root
import PassiveAggressive.Proofs.Session.SideBySide

/-!
# Examples in another order

The features of an example stand in some order, and over doubles the order shows: sums are
rounded from the left.  Over exact numbers nothing of what a step reports depends on it
(`feed_rearranged`), also where an id occurs several times in an example.

The models do differ.  An id that is new is put at the end, so new ids stand in the order in
which the example gives them, and an id that occurs in two spellings stands as it was spelt
first.  What remains the same is what is found under every id and the number of ids
(`WeightMap.Agrees`).  Filing keeps models so (`Agrees.insert`), and two weights may be added
to in either order: under one key the sums are the same, and under two keys neither addition
sees the other (`agrees_moved_swap`).  From these two an induction over the permutation gives
all moves along an example (`Agrees.moved`).

Nothing is asked of the function that is taken for the root, nor of the margin that was set:
once the two sessions have scored an example alike, they compute the rest from equal numbers.
-/

namespace PassiveAggressive

open Exact

variable {ι α K : Type}

/-- The same features in another order, with the same target. -/
def Example.Rearranges (e e' : Example ι α) : Prop := e.1.Perm e'.1 ∧ e.2 = e'.2

variable [Key ι]

/-! ## Models that agree -/

namespace WeightMap

/-- The same is found under every id, and there are equally many of them. -/
structure Agrees (m n : WeightMap ι α) : Prop where
  find?_eq : ∀ id, m.find? id = n.find? id
  size_eq : m.size = n.size

theorem Agrees.refl (m : WeightMap ι α) : m.Agrees m := ⟨fun _ => rfl, rfl⟩

theorem Agrees.symm {m n : WeightMap ι α} (h : m.Agrees n) : n.Agrees m :=
  ⟨fun id => (h.find?_eq id).symm, h.size_eq.symm⟩

theorem Agrees.trans {m n p : WeightMap ι α} (h : m.Agrees n) (h' : n.Agrees p) : m.Agrees p :=
  ⟨fun id => (h.find?_eq id).trans (h'.find?_eq id), h.size_eq.trans h'.size_eq⟩

theorem Agrees.map {β : Type} {m n : WeightMap ι α} (h : m.Agrees n) (g : α → β) :
    (m.map g).Agrees (n.map g) := by
  refine ⟨fun id => ?_, ?_⟩
  · rw [find?_map, find?_map, h.find?_eq]
  · simpa [size] using h.size_eq

theorem size_insert (m : WeightMap ι α) (id : ι) (w : α) :
    (m.insert id w).size = m.size + if (m.find? id).isSome then 0 else 1 := by
  have hfound : m.keys.any (Key.same · id) = (m.find? id).isSome := by
    rw [Bool.eq_iff_iff, find?, Option.isSome_map, List.find?_isSome]
    simp [keys]
  rw [← length_keys, keys_insert, hfound, ← length_keys]
  split <;> simp

variable [LawfulKey ι]

/-- **Filing the same** keeps models in agreement. -/
theorem Agrees.insert {m n : WeightMap ι α} (h : m.Agrees n) (id : ι) (w : α) :
    (m.insert id w).Agrees (n.insert id w) := by
  refine ⟨fun id' => ?_, ?_⟩
  · rw [find?_insert, find?_insert, h.find?_eq]
  · rw [size_insert, size_insert, h.find?_eq, h.size_eq]

variable [Field K] {w w' : WeightMap ι K}

omit [LawfulKey ι] in
theorem Agrees.weight_eq (h : w.Agrees w') (id : ι) : w.weight id = w'.weight id := by
  unfold weight
  rw [h.find?_eq]

omit [LawfulKey ι] in
/-- The score is a sum, and a sum may be taken in any order. -/
theorem Agrees.dot_eq (h : w.Agrees w') {x x' : Features ι K} (hx : x.Perm x') :
    w.dot x = w'.dot x' := by
  have hterm : ∀ f : Feature ι K, w.weight f.id * f.value = w'.weight f.id * f.value := fun f => by
    rw [h.weight_eq]
  calc w.dot x = (x.map fun f => w'.weight f.id * f.value).sum :=
        congrArg List.sum (List.map_congr_left fun f _ => hterm f)
    _ = w'.dot x' := (hx.map _).sum_eq

/-- **Two weights are added to in either order.** -/
theorem agrees_moved_swap (w : WeightMap ι K) (c : K) (f g : Feature ι K) :
    (w.moved c [f, g]).Agrees (w.moved c [g, f]) := by
  have hmoved : ∀ f g : Feature ι K, w.moved c [f, g] =
      (w.insert f.id (w.weight f.id + c * f.value)).insert g.id
        ((if Key.same f.id g.id then w.weight f.id + c * f.value else w.weight g.id) +
          c * g.value) := by
    intro f g
    show (w.insert f.id _).insert g.id ((w.insert f.id _).weight g.id + c * g.value) = _
    rw [weight_insert]
  rw [hmoved f g, hmoved g f, same_comm g.id f.id]
  by_cases hsame : Key.same f.id g.id = true
  · -- one key: both sums hold both values
    have hweight := weight_congr hsame w
    have hfind := find?_congr hsame w
    rw [if_pos hsame, if_pos hsame]
    refine ⟨fun id => ?_, ?_⟩
    · rw [find?_insert, find?_insert, find?_insert, find?_insert, same_comm f.id id,
        same_comm g.id id, same_congr_right hsame, hweight, add_right_comm]
      split <;> rfl
    · rw [size_insert, size_insert, size_insert, size_insert, find?_insert, find?_insert,
        same_comm g.id f.id, if_pos hsame, if_pos hsame, hfind]
      rfl
  · -- two keys: under an id that is the same key as one of them, it is not the same as the other
    have hboth : ∀ id, Key.same f.id id = true → Key.same g.id id = false := fun id hf => by
      rw [← Bool.not_eq_true]
      exact fun hg => hsame (LawfulKey.same_trans hf (LawfulKey.same_symm hg))
    rw [if_neg hsame, if_neg hsame]
    refine ⟨fun id => ?_, ?_⟩
    · rw [find?_insert, find?_insert, find?_insert, find?_insert]
      by_cases hf : Key.same f.id id = true
      · simp [hf, hboth id hf]
      · simp [hf]
    · rw [size_insert, size_insert, size_insert, size_insert, find?_insert, find?_insert,
        same_comm g.id f.id, if_neg hsame, if_neg hsame]
      omega

theorem Agrees.moved_self (h : w.Agrees w') (c : K) (x : Features ι K) :
    (w.moved c x).Agrees (w'.moved c x) := by
  induction x generalizing w w' with
  | nil => exact h
  | cons f fs ih =>
      have hfirst := h.insert f.id (w.weight f.id + c * f.value)
      rw [h.weight_eq] at hfirst
      show ((w.insert f.id (w.weight f.id + c * f.value)).moved c fs).Agrees _
      rw [h.weight_eq]
      exact ih hfirst

/-- **A move along rearranged features** keeps models in agreement. -/
theorem Agrees.moved (h : w.Agrees w') (c : K) {x x' : Features ι K} (hx : x.Perm x') :
    (w.moved c x).Agrees (w'.moved c x') := by
  induction hx generalizing w w' with
  | nil => exact h
  | cons f _ ih =>
      have hfirst := h.moved_self c [f]
      exact ih hfirst
  | swap f g fs =>
      have hfirst := (agrees_moved_swap w c g f).trans (h.moved_self c [f, g])
      exact hfirst.moved_self c fs
  | trans _ _ ih ih' => exact (ih h).trans (ih' (.refl w'))

end WeightMap

omit [Key ι] in
theorem squaredNorm_eq_of_perm [Field K] {x x' : Features ι K} (hx : x.Perm x') :
    squaredNorm x = squaredNorm x' := (hx.map _).sum_eq

/-! ## One step -/

variable [Field K] [LinearOrder K] [SquareRoot K]

namespace WeightMap

theorem Agrees.scoreAndNorm_eq_ok {w w' : WeightMap ι K} (h : w.Agrees w') {x x' : Features ι K}
    (hx : x.Perm x') {seen : Margin (Exact K)}
    (hseen : (w.map finite).scoreAndNorm (x.map (Feature.map finite)) = .ok seen) :
    (w'.map finite).scoreAndNorm (x'.map (Feature.map finite)) = .ok seen := by
  have hkeys : ∀ f ∈ x, Key.check f.id = .ok () := fun f hf =>
    check_of_scoreAndNorm hseen (f.map finite) (List.mem_map_of_mem hf)
  rw [scoreAndNorm_exact w hkeys, h.dot_eq hx, squaredNorm_eq_of_perm hx] at hseen
  rw [scoreAndNorm_exact w' fun f hf => hkeys f (hx.mem_iff.2 hf)]
  exact hseen

theorem Agrees.exists_fault {w w' : WeightMap ι K} (h : w.Agrees w') {x x' : Features ι K}
    (hx : x.Perm x') {fault : Fault}
    (hfault : (w.map finite).scoreAndNorm (x.map (Feature.map finite)) = .error fault) :
    ∃ fault', (w'.map finite).scoreAndNorm (x'.map (Feature.map finite)) = .error fault' := by
  cases hseen : (w'.map finite).scoreAndNorm (x'.map (Feature.map finite)) with
  | error fault' => exact ⟨fault', rfl⟩
  | ok seen =>
      rw [h.symm.scoreAndNorm_eq_ok hx.symm hseen] at hfault
      cases hfault

end WeightMap

variable [LawfulKey ι]

namespace Session

/-- Two sessions that differ in their models only, and these agree. -/
structure Rearranged (s s' : Session ι (Exact K)) : Prop where
  exists_weights : ∃ w w' : WeightMap ι K, w.Agrees w' ∧ s.weights = w.map finite ∧
    s' = { s with weights := w'.map finite }

/-- **A step of both sessions** along rearranged features reports the same, or fails in both, and
leaves two such sessions. -/
theorem Rearranged.step {s s' : Session ι (Exact K)} (h : s.Rearranged s') {x x' : Features ι K}
    (hx : x.Perm x') (y : K) :
    (s.step (x.map (Feature.map finite)) (finite y)).1.Rearranged
        (s'.step (x'.map (Feature.map finite)) (finite y)).1 ∧
      (s.step (x.map (Feature.map finite)) (finite y)).2.toOption =
        (s'.step (x'.map (Feature.map finite)) (finite y)).2.toOption := by
  obtain ⟨w, w', hagree, hw, rfl⟩ := h
  have hkept : ∀ t : Session ι (Exact K), t.weights = w.map finite →
      t.Rearranged { t with weights := w'.map finite } := fun t ht => ⟨w, w', hagree, ht, rfl⟩
  have hscored : ∀ {seen}, s.weights.scoreAndNorm (x.map (Feature.map finite)) = .ok seen →
      (w'.map finite).scoreAndNorm (x'.map (Feature.map finite)) = .ok seen := fun hseen =>
    hagree.scoreAndNorm_eq_ok hx (hw ▸ hseen)
  -- the margin is computed from the spread, which the sessions share
  have hmargin : (({ s with weights := w'.map finite } : Session ι (Exact K)).margin
      (finite y)).2 = (s.margin (finite y)).2 := by
    unfold margin
    cases s.spread <;> rfl
  have hjudged : ∀ {seen epsilon loss},
      Judged s (x.map (Feature.map finite)) (finite y) seen epsilon loss →
      Judged { s with weights := w'.map finite } (x'.map (Feature.map finite)) (finite y) seen
        epsilon loss := fun hj =>
    ⟨hj.accepts, hscored hj.scored, hmargin.trans hj.margin_eq, hj.loss_eq⟩
  have hsized : ∀ {seen epsilon loss eta coeff},
      Sized s (x.map (Feature.map finite)) (finite y) seen epsilon loss eta coeff →
      Sized { s with weights := w'.map finite } (x'.map (Feature.map finite)) (finite y) seen
        epsilon loss eta coeff := fun hz =>
    ⟨hjudged hz.toJudged, hz.positive, hz.size_eq⟩
  have hkeys : ∀ {seen}, s.weights.scoreAndNorm (x.map (Feature.map finite)) = .ok seen →
      ∀ f ∈ x, Key.check f.id = .ok () := fun hseen f hf =>
    WeightMap.check_of_scoreAndNorm hseen _ (List.mem_map_of_mem hf)
  -- each ending on the one side is met by an ending on the other side
  suffices hends : ∀ {t r}, StepsTo s (x.map (Feature.map finite)) (finite y) t r →
      ∃ t' r', StepsTo { s with weights := w'.map finite } (x'.map (Feature.map finite)) (finite y)
        t' r' ∧ t.Rearranged t' ∧ r.toOption = r'.toOption by
    obtain ⟨t', r', hsteps, hsame⟩ := hends (stepsTo_step s _ _)
    rw [hsteps.step_eq]
    exact hsame
  intro t r hsteps
  cases hsteps with
  | finalized hphase => exact ⟨_, _, .finalized hphase, hkept s hw, rfl⟩
  | unscored haccepts hfault =>
      obtain ⟨fault', hfault'⟩ := hagree.exists_fault hx (hw ▸ hfault)
      exact ⟨_, _, .unscored haccepts hfault', hkept _ hw, rfl⟩
  | unmeasured haccepts hseen hfault =>
      exact ⟨_, _, .unmeasured haccepts (hscored hseen) (hmargin.trans hfault), hkept _ hw, rfl⟩
  | unjudged haccepts hseen hepsilon hfault =>
      exact ⟨_, _, .unjudged haccepts (hscored hseen) (hmargin.trans hepsilon) hfault, hkept _ hw,
        rfl⟩
  | undecided hj hfault => exact ⟨_, _, .undecided (hjudged hj) hfault, hkept _ hw, rfl⟩
  | noUpdate hj hpos => exact ⟨_, _, .noUpdate (hjudged hj) hpos, hkept _ hw, rfl⟩
  | unsized hj hpos hsize => exact ⟨_, _, .unsized (hjudged hj) hpos hsize, hkept _ hw, rfl⟩
  | skipped hz hinfinite => exact ⟨_, _, .skipped (hsized hz) hinfinite, hkept _ hw, rfl⟩
  | @stuck seen epsilon loss eta coeff weights fault hz hfinite hmove =>
      -- a model is not stuck half way once its ids have been checked
      obtain ⟨c, rfl⟩ := (isFinite_eq_ok_true_iff coeff).1 hfinite
      rw [hw, moveAlong_exact w c (hkeys hz.scored)] at hmove
      cases hmove
  | @updated seen epsilon loss eta coeff weights hz hfinite hmove =>
      obtain ⟨c, rfl⟩ := (isFinite_eq_ok_true_iff coeff).1 hfinite
      have hkeys' : ∀ f ∈ x', Key.check f.id = .ok () := fun f hf =>
        hkeys hz.scored f (hx.mem_iff.2 hf)
      rw [hw, moveAlong_exact w c (hkeys hz.scored)] at hmove
      cases hmove
      exact ⟨_, _, .updated (hsized hz) hfinite (moveAlong_exact w' c hkeys'),
        ⟨_, _, hagree.moved c hx, rfl, rfl⟩, rfl⟩

/-! ## A whole stream -/

/-- From any two rearranged sessions, rearranged streams come to the same. -/
theorem Rearranged.feed {s s' : Session ι (Exact K)} (h : s.Rearranged s')
    {stream stream' : List (Example ι K)}
    (hstream : List.Forall₂ Example.Rearranges stream stream') :
    (s.feed (stream.map (Example.map finite))).1.Rearranged
        (s'.feed (stream'.map (Example.map finite))).1 ∧
      (s.feed (stream.map (Example.map finite))).2.map Except.toOption =
        (s'.feed (stream'.map (Example.map finite))).2.map Except.toOption := by
  induction hstream generalizing s s' with
  | nil => exact ⟨h, rfl⟩
  | @cons e e' rest rest' he _ ih =>
      obtain ⟨x, y⟩ := e
      obtain ⟨x', y'⟩ := e'
      obtain ⟨hx, rfl : y = y'⟩ := he
      obtain ⟨hstep, hresult⟩ := h.step hx y
      obtain ⟨hrest, hresults⟩ := ih hstep
      rw [List.map_cons, List.map_cons, Example.map, Example.map, feed_cons, feed_cons,
        List.map_cons, List.map_cons, hresult, hresults]
      exact ⟨hrest, rfl⟩

/-- **The order of the features does not matter.**  Over exact numbers, for all settings, feed two
streams to two new sessions with these settings, where the second stream has the examples of the
first one with the same targets and their features in another order.  At every example both sessions
report the same outcome, or both fail; and in the end they have the same counters and the same
spread, find the same weight under every id, and have equally many ids. -/
theorem feed_rearranged {settings : Settings (Exact K)} {s : Session ι (Exact K)}
    (hs : create settings = .ok s) {stream stream' : List (Example ι K)}
    (hstream : List.Forall₂ Example.Rearranges stream stream') :
    (s.feed (stream.map (Example.map finite))).2.map Except.toOption =
        (s.feed (stream'.map (Example.map finite))).2.map Except.toOption ∧
      (s.feed (stream.map (Example.map finite))).1.counters =
        (s.feed (stream'.map (Example.map finite))).1.counters ∧
      (s.feed (stream.map (Example.map finite))).1.spread =
        (s.feed (stream'.map (Example.map finite))).1.spread ∧
      (s.feed (stream.map (Example.map finite))).1.weights.Agrees
        (s.feed (stream'.map (Example.map finite))).1.weights := by
  have hself : s.Rearranged s := by
    rw [eq_of_create hs]
    exact ⟨.empty, .empty, .refl _, rfl, rfl⟩
  obtain ⟨⟨w, w', hagree, hw, hrest⟩, hresults⟩ := hself.feed hstream
  refine ⟨hresults, ?_, ?_, ?_⟩
  · rw [hrest]
  · rw [hrest]
  · rw [hrest, hw]
    exact hagree.map finite

/-- An id that occurs in two spellings and an example that fails at one of two ids that are no keys,
and not at the same one in both orders. -/
theorem feed_rearranged_respelt :
    ∃ (s : Session Value (Exact ℝ)) (stream stream' : List (Example Value ℝ)),
      create ⟨.pa1a, none, finite (1 / 2)⟩ = .ok s ∧
      stream = [([⟨.int 1, 2⟩, ⟨.text "a", 1⟩, ⟨.bool true, 3⟩], 4),
        ([⟨.list [], 1⟩, ⟨.dict [], 1⟩], 1), ([⟨.text "b", 1⟩, ⟨.text "a", 2⟩], -1)] ∧
      stream' = [([⟨.bool true, 3⟩, ⟨.int 1, 2⟩, ⟨.text "a", 1⟩], 4),
        ([⟨.dict [], 1⟩, ⟨.list [], 1⟩], 1), ([⟨.text "a", 2⟩, ⟨.text "b", 1⟩], -1)] ∧
      List.Forall₂ Example.Rearranges stream stream' ∧
      (s.feed (stream.map (Example.map finite))).2.map Except.toOption =
        (s.feed (stream'.map (Example.map finite))).2.map Except.toOption ∧
      (s.feed (stream.map (Example.map finite))).1.counters =
        (s.feed (stream'.map (Example.map finite))).1.counters ∧
      (s.feed (stream.map (Example.map finite))).1.spread =
        (s.feed (stream'.map (Example.map finite))).1.spread ∧
      (s.feed (stream.map (Example.map finite))).1.weights.Agrees
        (s.feed (stream'.map (Example.map finite))).1.weights := by
  obtain ⟨s, hs⟩ : ∃ s : Session Value (Exact ℝ), create ⟨.pa1a, none, finite (1 / 2)⟩ = .ok s :=
    ⟨_, rfl⟩
  have hstream : List.Forall₂ Example.Rearranges
      ([([⟨.int 1, 2⟩, ⟨.text "a", 1⟩, ⟨.bool true, 3⟩], 4), ([⟨.list [], 1⟩, ⟨.dict [], 1⟩], 1),
        ([⟨.text "b", 1⟩, ⟨.text "a", 2⟩], -1)] : List (Example Value ℝ))
      [([⟨.bool true, 3⟩, ⟨.int 1, 2⟩, ⟨.text "a", 1⟩], 4), ([⟨.dict [], 1⟩, ⟨.list [], 1⟩], 1),
        ([⟨.text "a", 2⟩, ⟨.text "b", 1⟩], -1)] := by
    refine .cons ⟨?_, rfl⟩ (.cons ⟨.swap _ _ _, rfl⟩ (.cons ⟨.swap _ _ _, rfl⟩ .nil))
    exact ((List.Perm.swap _ _ _).cons _).trans (.swap _ _ _)
  exact ⟨s, _, _, hs, rfl, rfl, hstream, feed_rearranged hs hstream⟩

end Session
end PassiveAggressive
