import PassiveAggressive.Proofs.Session.Failure
import PassiveAggressive.Proofs.Session.SideBySide

/-!
# Streams without an id in common

Two streams that have no id in common may be fed to one session in any order, and each
learns as if it were alone: every example comes to what it comes to without the other
stream, whether that is an outcome or a fault, and the weights in the end are those of
the two streams, put together.  This holds over any arithmetic, for a session without a
spread; in an adaptive session the targets of one stream widen the margin of the other.

The invariant (`Joint`) relates three sessions: the one that is fed everything and the two
that are fed one side each.  Its model is the two models interleaved.  An example of one
side reads and files only ids that the other side does not know, so it does the same to
the joint model as to the model of its own side, and leaves the rest where it was
(`Interleaved.find?_eq`, `Interleaved.fileIn`).

An interleaving is given by the order in which the sides come (`Interleaved`), and that
order is part of the statement: the results of the stream are the results of its sides in
the very order in which the examples were put together.

A value that is no number equals nothing, itself included.  As an id it is never found
again, and makes a new entry whenever it is filed.  The statements about interleaving hold
of such ids as of all others; it is only when the joint weights are narrowed down to the
ids of one side that they have to be left out.
-/

namespace PassiveAggressive

/-! ## Interleaving -/

/-- The two sides that an interleaving is made from. -/
inductive Side where
  | left
  | right
  deriving DecidableEq

/-- The side across. -/
def Side.other : Side → Side
  | left => right
  | right => left

/-- The last list is made from the two before it, each in its order, by taking the next item from
the side that is named. -/
inductive Interleaved {β : Type} : List Side → List β → List β → List β → Prop
  | nil : Interleaved [] [] [] []
  | left {order : List Side} {l r whole : List β} (b : β) (h : Interleaved order l r whole) :
    Interleaved (.left :: order) (b :: l) r (b :: whole)
  | right {order : List Side} {l r whole : List β} (b : β) (h : Interleaved order l r whole) :
    Interleaved (.right :: order) l (b :: r) (b :: whole)

namespace Interleaved

section Items

variable {β : Type} {order : List Side} {l r whole : List β}

theorem swap (h : Interleaved order l r whole) : Interleaved (order.map Side.other) r l whole := by
  induction h with
  | nil => exact .nil
  | left b _ ih => exact .right b ih
  | right b _ ih => exact .left b ih

/-- A test that tells the sides apart finds the left one again. -/
theorem filter_eq (h : Interleaved order l r whole) {p : β → Bool} (hl : ∀ b ∈ l, p b = true)
    (hr : ∀ b ∈ r, p b = false) : whole.filter p = l := by
  induction h with
  | nil => rfl
  | left b _ ih =>
    obtain ⟨hb, hl⟩ := List.forall_mem_cons.1 hl
    rw [List.filter_cons, if_pos hb, ih hl hr]
  | right b _ ih =>
    obtain ⟨hb, hr⟩ := List.forall_mem_cons.1 hr
    rw [List.filter_cons, hb, if_neg Bool.false_ne_true, ih hl hr]

end Items

section Entries

variable {ι α : Type} [Key ι] {order : List Side} {l r whole : List (ι × α)} {id : ι}

/-- An id that the right side does not know is looked up on the left. -/
theorem find?_eq (h : Interleaved order l r whole) (hr : ∀ e ∈ r, Key.same e.1 id = false) :
    (⟨whole⟩ : WeightMap ι α).find? id = WeightMap.find? ⟨l⟩ id := by
  induction h with
  | nil => rfl
  | left e _ ih => rw [WeightMap.find?_cons, WeightMap.find?_cons, ih hr]
  | right e _ ih =>
    obtain ⟨he, hr⟩ := List.forall_mem_cons.1 hr
    rw [WeightMap.find?_cons, he, if_neg Bool.false_ne_true, ih hr]

/-- An id that the right side does not know is filed on the left. -/
theorem fileIn (h : Interleaved order l r whole) (hr : ∀ e ∈ r, Key.same e.1 id = false) (w : α) :
    ∃ order', Interleaved order' (WeightMap.fileIn id w l) r (WeightMap.fileIn id w whole) := by
  induction h with
  | nil => exact ⟨_, .left (id, w) .nil⟩
  | left e h ih =>
    rw [WeightMap.fileIn, WeightMap.fileIn]
    by_cases he : Key.same e.1 id = true
    · rw [if_pos he, if_pos he]
      exact ⟨_, .left (e.1, w) h⟩
    · obtain ⟨order', h'⟩ := ih hr
      rw [if_neg he, if_neg he]
      exact ⟨_, .left e h'⟩
  | right e h ih =>
    obtain ⟨he, hr⟩ := List.forall_mem_cons.1 hr
    obtain ⟨order', h'⟩ := ih hr
    have hpast : ∀ es, WeightMap.fileIn id w (e :: es) = e :: WeightMap.fileIn id w es := by
      intro es
      rw [WeightMap.fileIn, he, if_neg Bool.false_ne_true]
    rw [hpast]
    exact ⟨_, .right e h'⟩

end Entries
end Interleaved

/-! ## Ids -/

variable {ι α : Type} [Key ι]

/-- The ids that occur in a stream. -/
def vocabulary (stream : List (Example ι α)) : List ι := stream.flatMap fun e => e.1.map Feature.id

/-- No id of the one list is the same key as an id of the other. -/
def DisjointIds (xs ys : List ι) : Prop := ∀ a ∈ xs, ∀ b ∈ ys, Key.same a b = false

instance (xs ys : List ι) : Decidable (DisjointIds xs ys) :=
  inferInstanceAs (Decidable (∀ a ∈ xs, ∀ b ∈ ys, Key.same a b = false))

theorem DisjointIds.symm [LawfulKey ι] {xs ys : List ι} (h : DisjointIds xs ys) :
    DisjointIds ys xs := by
  intro b hb a ha
  rw [WeightMap.same_comm]
  exact h a ha b hb

/-- The weights whose ids are among the given ones. -/
def WeightMap.restrict (m : WeightMap ι α) (ids : List ι) : WeightMap ι α :=
  ⟨m.entries.filter fun e => ids.any (Key.same e.1)⟩

variable [Arithmetic α]

namespace Session

/-- Moving the weights makes entries for no other ids. -/
theorem mem_keys_moveAlong {m : WeightMap ι α} {coeff : α} {x : Features ι α} {id : ι}
    (h : id ∈ (moveAlong m coeff x).1.keys) : id ∈ m.keys ∨ id ∈ x.map Feature.id := by
  induction x generalizing m with
  | nil => exact .inl h
  | cons f fs ih =>
    rw [moveAlong] at h
    split at h
    · exact .inl h
    · rename_i moved hmoved
      obtain ⟨delta, -, hadd⟩ := bind_eq_ok_iff.1 hmoved
      obtain ⟨w, -, hadd⟩ := bind_eq_ok_iff.1 hadd
      obtain ⟨sum, -, hadd⟩ := bind_eq_ok_iff.1 hadd
      cases hadd
      rw [List.map_cons, List.mem_cons]
      rcases ih h with hold | hlater
      · rw [WeightMap.keys_insert] at hold
        split at hold
        · exact .inl hold
        · rcases List.mem_append.1 hold with hold | hnew
          · exact .inl hold
          · exact .inr (.inl (List.mem_singleton.1 hnew))
      · exact .inr (.inr hlater)

theorem mem_keys_step {s : Session ι α} {x : Features ι α} {target : α} {id : ι}
    (h : id ∈ (s.step x target).1.weights.keys) : id ∈ s.weights.keys ∨ id ∈ x.map Feature.id := by
  have hsteps := stepsTo_step s x target
  generalize s.step x target = result at h hsteps
  obtain ⟨s', r⟩ := result
  cases hsteps with
  | @stuck _ _ _ _ coeff _ _ _ _ hmove | @updated _ _ _ _ coeff _ _ _ hmove =>
    have hmoved : id ∈ (moveAlong s.weights coeff x).1.keys := by
      rw [hmove]
      exact h
    exact mem_keys_moveAlong hmoved
  | _ => exact .inl h

/-! ## Three sessions -/

/-- The session `s` has been fed what `a` and `b` have been fed, and they know the ids in `xs` and
in `ys`. -/
structure Joint (xs ys : List ι) (s a b : Session ι α) : Prop where
  fixed : s.spread = none
  idle : s.phase = .idle
  left : a = { s with weights := a.weights, counters := a.counters }
  right : b = { s with weights := b.weights, counters := b.counters }
  weights : ∃ order, Interleaved order a.weights.entries b.weights.entries s.weights.entries
  leftKeys : ∀ id ∈ a.weights.keys, id ∈ xs
  rightKeys : ∀ id ∈ b.weights.keys, id ∈ ys
  counters : s.counters = a.counters + b.counters

variable {xs ys : List ι} {s a b : Session ι α}

omit [Key ι] [Arithmetic α] in
/-- The sides may change places. -/
theorem Joint.swap (h : Joint xs ys s a b) : Joint ys xs s b a where
  fixed := h.fixed
  idle := h.idle
  left := h.right
  right := h.left
  weights := by
    obtain ⟨order, hweights⟩ := h.weights
    exact ⟨_, hweights.swap⟩
  leftKeys := h.rightKeys
  rightKeys := h.leftKeys
  counters := by
    rw [h.counters]
    ext <;> exact Nat.add_comm _ _

/-- To the ids of an example of the left side the joint model and the left model are alike. -/
theorem matches_left [LawfulKey ι] {m : WeightMap ι α} (hdisjoint : DisjointIds xs ys)
    (hm : ∀ id ∈ m.keys, id ∈ ys) {x : Features ι α} (hx : ∀ f ∈ x, f.id ∈ xs) :
    List.Forall₂ (Feature.Matches fun whole own : WeightMap ι α =>
      ∃ order, Interleaved order own.entries m.entries whole.entries) x x := by
  refine List.forall₂_same.2 fun f hf => ?_
  have hother : ∀ e ∈ m.entries, Key.same e.1 f.id = false := fun e he =>
    hdisjoint.symm e.1 (hm e.1 (List.mem_map_of_mem he)) f.id (hx f hf)
  refine ⟨rfl, ?_, ?_⟩
  · rintro whole own ⟨order, h⟩
    have hfind : whole.find? f.id = own.find? f.id := h.find?_eq hother
    rw [WeightMap.get, WeightMap.get, hfind]
  · rintro whole own w ⟨order, h⟩
    exact h.fileIn hother w

/-- **An example of the left side** comes to the same in the joint session and in its own. -/
theorem Joint.step [LawfulKey ι] (hdisjoint : DisjointIds xs ys) (h : Joint xs ys s a b)
    {x : Features ι α} (hx : ∀ f ∈ x, f.id ∈ xs) (target : α) :
    (s.step x target).2 = (a.step x target).2 ∧
      Joint xs ys (s.step x target).1 (a.step x target).1 b := by
  obtain ⟨hsettings, haggressive, hspread, hphase⟩ : s.settings = a.settings ∧
      s.aggressiveness = a.aggressiveness ∧ s.spread = a.spread ∧ s.phase = a.phase := by
    rw [h.left]
    exact ⟨rfl, rfl, rfl, rfl⟩
  have halike : Alike (fun whole own => ∃ order,
      Interleaved order own.entries b.weights.entries whole.entries) s a :=
    ⟨hsettings, haggressive, hspread, hphase, h.weights⟩
  obtain ⟨hresult, halike', counted, hs, ha⟩ :=
    halike.step (matches_left hdisjoint h.rightKeys hx) target
  have hstep := step_of_fixed h.fixed h.idle x target
  have hspread' : (s.step x target).1.spread = none := by
    rw [hstep]
    exact h.fixed
  refine ⟨hresult, hspread', idle_step h.idle x target, ?_, ?_, halike'.weights, ?_, h.rightKeys,
    ?_⟩
  · have hown := step_of_fixed (hspread.symm.trans h.fixed) (hphase.symm.trans h.idle) x target
    rw [hown, hstep, h.left]
  · rw [hstep]
    exact h.right
  · intro id hid
    rcases mem_keys_step hid with hold | hnew
    · exact h.leftKeys id hold
    · obtain ⟨f, hf, rfl⟩ := List.mem_map.1 hnew
      exact hx f hf
  · rw [hs, ha, h.counters]
    ext <;> exact Nat.add_right_comm _ _ _

/-- **Two streams without an id in common**, from three sessions that fit together. -/
theorem Joint.feed [LawfulKey ι] (hdisjoint : DisjointIds xs ys) (h : Joint xs ys s a b)
    {order : List Side} {mine theirs whole : List (Example ι α)}
    (hwhole : Interleaved order mine theirs whole) (hmine : ∀ e ∈ mine, ∀ f ∈ e.1, f.id ∈ xs)
    (htheirs : ∀ e ∈ theirs, ∀ f ∈ e.1, f.id ∈ ys) :
    Interleaved order (a.feed mine).2 (b.feed theirs).2 (s.feed whole).2 ∧
      Joint xs ys (s.feed whole).1 (a.feed mine).1 (b.feed theirs).1 := by
  induction hwhole generalizing s a b with
  | nil => exact ⟨.nil, h⟩
  | @left order mine theirs whole e _ ih =>
    obtain ⟨x, target⟩ := e
    obtain ⟨hx, hmine⟩ := List.forall_mem_cons.1 hmine
    obtain ⟨hresult, hstep⟩ := h.step hdisjoint hx target
    obtain ⟨hresults, hjoint⟩ := ih hstep hmine htheirs
    rw [feed_cons, feed_cons, hresult]
    exact ⟨hresults.left _, hjoint⟩
  | @right order mine theirs whole e _ ih =>
    obtain ⟨x, target⟩ := e
    obtain ⟨hx, htheirs⟩ := List.forall_mem_cons.1 htheirs
    obtain ⟨hresult, hstep⟩ := h.swap.step hdisjoint.symm hx target
    obtain ⟨hresults, hjoint⟩ := ih hstep.swap hmine htheirs
    rw [feed_cons, feed_cons, hresult]
    exact ⟨hresults.right _, hjoint⟩

omit [Arithmetic α] in
/-- The joint weights, narrowed down to the ids of the left side, are the weights of the left
side, if all of these can be found again. -/
theorem Joint.restrict_eq [LawfulKey ι] (hdisjoint : DisjointIds xs ys) (h : Joint xs ys s a b)
    (hfound : ∀ id ∈ a.weights.keys, Key.same id id = true) :
    s.weights.restrict xs = a.weights := by
  obtain ⟨order, hweights⟩ := h.weights
  refine congrArg WeightMap.mk (hweights.filter_eq (fun e he => ?_) fun e he => ?_)
  · have hkey : e.1 ∈ a.weights.keys := List.mem_map_of_mem he
    exact List.any_eq_true.2 ⟨e.1, h.leftKeys e.1 hkey, hfound e.1 hkey⟩
  · have hkey : e.1 ∈ ys := h.rightKeys e.1 (List.mem_map_of_mem he)
    exact List.any_eq_false.2 fun id hid =>
      Bool.eq_false_iff.1 (hdisjoint.symm e.1 hkey id hid)

omit [Key ι] in
theorem joint_of_create {settings : Settings α} (hs : create settings = .ok s)
    (hfixed : settings.variant.adaptive = false) : Joint xs ys s s s := by
  rw [eq_of_create hs]
  exact {
    fixed := if_neg (Bool.eq_false_iff.1 hfixed)
    idle := rfl
    left := rfl
    right := rfl
    weights := ⟨[], .nil⟩
    leftKeys := fun id hid => (List.not_mem_nil hid).elim
    rightKeys := fun id hid => (List.not_mem_nil hid).elim
    counters := rfl }

/-- **Streams without an id in common are learnt independently of each other.**  In a session
without a spread, every example of the joint stream comes to what it comes to in a session that is
fed its own side alone; the weights are those of the two sides put together, all of them filed under
ids of their side, and narrowed down to the ids of a side they are the weights of that side; and all
the counters are sums. -/
theorem feed_interleaved [LawfulKey ι] {settings : Settings α} (hs : create settings = .ok s)
    (hfixed : settings.variant.adaptive = false) {order : List Side}
    {mine theirs whole : List (Example ι α)} (hwhole : Interleaved order mine theirs whole)
    (hdisjoint : DisjointIds (vocabulary mine) (vocabulary theirs)) :
    Interleaved order (s.feed mine).2 (s.feed theirs).2 (s.feed whole).2 ∧
    (∃ merged, Interleaved merged (s.feed mine).1.weights.entries
      (s.feed theirs).1.weights.entries (s.feed whole).1.weights.entries) ∧
    (∀ id ∈ (s.feed mine).1.weights.keys, id ∈ vocabulary mine) ∧
    (∀ id ∈ (s.feed theirs).1.weights.keys, id ∈ vocabulary theirs) ∧
    ((∀ id ∈ (s.feed mine).1.weights.keys, Key.same id id = true) →
      (s.feed whole).1.weights.restrict (vocabulary mine) = (s.feed mine).1.weights) ∧
    ((∀ id ∈ (s.feed theirs).1.weights.keys, Key.same id id = true) →
      (s.feed whole).1.weights.restrict (vocabulary theirs) = (s.feed theirs).1.weights) ∧
    (s.feed whole).1.counters = (s.feed mine).1.counters + (s.feed theirs).1.counters := by
  have hknown : ∀ stream : List (Example ι α), ∀ e ∈ stream, ∀ f ∈ e.1,
      f.id ∈ vocabulary stream :=
    fun stream e he f hf => List.mem_flatMap.2 ⟨e, he, List.mem_map_of_mem hf⟩
  obtain ⟨hresults, hjoint⟩ := (joint_of_create hs hfixed).feed hdisjoint hwhole (hknown mine)
    (hknown theirs)
  exact ⟨hresults, hjoint.weights, hjoint.leftKeys, hjoint.rightKeys, hjoint.restrict_eq hdisjoint,
    hjoint.swap.restrict_eq hdisjoint.symm, hjoint.counters⟩

/-- A side that files under the number 1, once written as a truth value. -/
def numbered : List (Example Value Operand) :=
  [([⟨.int 1, .real (Number.ofInt 1)⟩], .real (Number.ofInt 3)),
    ([⟨.bool true, .int 2⟩, ⟨.int 3, .bool true⟩], .int 1)]

/-- A side that files under a text and the number 2, after an example that fails. -/
def lettered : List (Example Value Operand) :=
  [([⟨.int 2, .real (Number.ofInt 1)⟩, ⟨.text "a", .foreign .text⟩], .int 1),
    ([⟨.text "a", .real (Number.ofInt 1)⟩, ⟨.int 2, .int 1⟩], .int 4)]

/-- The examples of the two sides in turn. -/
def alternating : List (Example Value Operand) :=
  numbered.zip lettered |>.flatMap fun p => [p.1, p.2]

/-- The two sides in turn, in one session. -/
theorem feed_numbered_lettered :
    Interleaved [.left, .right, .left, .right] ((untrained .pa2).feed numbered).2
      ((untrained .pa2).feed lettered).2 ((untrained .pa2).feed alternating).2 ∧
    ((untrained .pa2).feed alternating).1.weights.restrict (vocabulary numbered) =
      ((untrained .pa2).feed numbered).1.weights := by
  have hs : create (Settings.operands ⟨.pa2, none, Number.zero false⟩) = .ok (untrained .pa2) :=
    create_of_open (open_untrained .pa2)
  have hwhole : Interleaved [.left, .right, .left, .right] numbered lettered alternating :=
    .left _ (.right _ (.left _ (.right _ .nil)))
  have hdisjoint : DisjointIds (vocabulary numbered) (vocabulary lettered) := by decide +kernel
  have hfound : ∀ id ∈ ((untrained .pa2).feed numbered).1.weights.keys, Key.same id id = true := by
    decide +kernel
  obtain ⟨hresults, -, -, -, hrestrict, -⟩ :=
    feed_interleaved (α := Operand) hs rfl hwhole hdisjoint
  exact ⟨hresults, hrestrict hfound⟩

end Session
end PassiveAggressive
