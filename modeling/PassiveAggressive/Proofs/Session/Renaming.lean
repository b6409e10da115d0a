import PassiveAggressive.Proofs.Session.Vocabulary

/-!
# Other names for the features

A session asks two things of an id: whether it is a key at all, and whether it is the same
key as another.  Nothing else about an id is looked at, so an id may be replaced by any
other for which the answers are the same --- a number by a text, or a long text by a
short one.  The renamed stream comes to the same outcomes and faults, with the same spread
and the same counters after every example, and the weights are filed under the new ids
in the order of the old ones.

`KeepsKeys f ids` says that the answers are the same for the ids in a list, and the list
that matters is the vocabulary of the stream: what `f` does to ids that do not occur is
nobody's concern.

The two sessions are `Alike` throughout, with the second model being the first under the
new ids.  An example matches the renamed one because looking up and filing compare the
ids of the model with the id at hand, and both are in the list (`find?_rename`,
`insert_rename`).
-/

namespace PassiveAggressive

variable {ι κ α : Type}

/-! ## Renaming -/

/-- The same feature under another id. -/
def Feature.rename (f : ι → κ) (g : Feature ι α) : Feature κ α := ⟨f g.id, g.value⟩

/-- The same example under other ids. -/
def Example.rename (f : ι → κ) (e : Example ι α) : Example κ α :=
  (e.1.map (Feature.rename f), e.2)

/-- The same weights, in the same order, under other ids. -/
def WeightMap.rename (f : ι → κ) (m : WeightMap ι α) : WeightMap κ α :=
  ⟨m.entries.map fun e => (f e.1, e.2)⟩

/-- The same session with its weights under other ids. -/
def Session.rename (f : ι → κ) (s : Session ι α) : Session κ α :=
  ⟨s.settings, s.aggressiveness, s.weights.rename f, s.spread, s.phase, s.counters⟩

/-- Renamed, the ids are keys if they were, and two of them are the same key if they were. -/
structure KeepsKeys [Key ι] [Key κ] (f : ι → κ) (ids : List ι) : Prop where
  check : ∀ a ∈ ids, Key.check (f a) = Key.check a
  same : ∀ a ∈ ids, ∀ b ∈ ids, Key.same (f a) (f b) = Key.same a b

variable [Key ι] [Key κ] {f : ι → κ} {ids : List ι}

namespace WeightMap

variable {m : WeightMap ι α} {id : ι}

theorem find?_rename (hf : KeepsKeys f ids) (hm : ∀ a ∈ m.keys, a ∈ ids) (hid : id ∈ ids) :
    (m.rename f).find? (f id) = m.find? id := by
  obtain ⟨es⟩ := m
  induction es with
  | nil => rfl
  | cons e es ih =>
    obtain ⟨he, hes⟩ := List.forall_mem_cons.1 hm
    have hrename : (⟨e :: es⟩ : WeightMap ι α).rename f =
        ⟨(f e.1, e.2) :: (rename f ⟨es⟩).entries⟩ := rfl
    rw [hrename, find?_cons, find?_cons, hf.same e.1 he id hid, ih hes]

/-- Filing under the new name is filing under the old one. -/
theorem insert_rename (hf : KeepsKeys f ids) (hm : ∀ a ∈ m.keys, a ∈ ids) (hid : id ∈ ids)
    (w : α) : (m.rename f).insert (f id) w = (m.insert id w).rename f := by
  obtain ⟨es⟩ := m
  suffices h : fileIn (f id) w (es.map fun e => (f e.1, e.2)) =
      (fileIn id w es).map fun e => (f e.1, e.2) from congrArg WeightMap.mk h
  induction es with
  | nil => rfl
  | cons e es ih =>
    obtain ⟨he, hes⟩ := List.forall_mem_cons.1 hm
    rw [List.map_cons, fileIn, fileIn, hf.same e.1 he id hid]
    split
    · rfl
    · rw [List.map_cons, ih hes]

theorem mem_keys_insert {w : α} {a : ι} (h : a ∈ (m.insert id w).keys) : a ∈ m.keys ∨ a = id := by
  rw [keys_insert] at h
  split at h
  · exact .inl h
  · exact (List.mem_append.1 h).imp_right List.mem_singleton.1

end WeightMap

variable [Arithmetic α]

/-- The second model is the first under other ids, and the ids of the first are among those for
which that is harmless. -/
def RenamedBy (f : ι → κ) (ids : List ι) (m : WeightMap ι α) (n : WeightMap κ α) : Prop :=
  n = m.rename f ∧ ∀ a ∈ m.keys, a ∈ ids

theorem matches_rename (hf : KeepsKeys f ids) {x : Features ι α} (hx : ∀ g ∈ x, g.id ∈ ids) :
    List.Forall₂ (Feature.Matches (RenamedBy f ids)) x (x.map (Feature.rename f)) := by
  refine List.forall₂_map_right_iff.2 (List.forall₂_same.2 fun g hg => ⟨rfl, ?_, ?_⟩)
  · rintro m n ⟨rfl, hm⟩
    change _ = (m.rename f).get (f g.id)
    rw [WeightMap.get, WeightMap.get, hf.check g.id (hx g hg),
      WeightMap.find?_rename hf hm (hx g hg)]
  · rintro m n w ⟨rfl, hm⟩
    refine ⟨WeightMap.insert_rename hf hm (hx g hg) w, fun a ha => ?_⟩
    rcases WeightMap.mem_keys_insert ha with hold | rfl
    · exact hm a hold
    · exact hx g hg

namespace Session

variable {s : Session ι α}

omit [Key ι] [Key κ] [Arithmetic α] in
theorem alike_rename (hs : ∀ a ∈ s.weights.keys, a ∈ ids) :
    Alike (RenamedBy f ids) s (s.rename f) :=
  ⟨rfl, rfl, rfl, rfl, rfl, hs⟩

omit [Key ι] [Key κ] [Arithmetic α] in
/-- What is like a session under other ids and has counted the same is that session under other
ids. -/
theorem Alike.eq_rename {t : Session κ α} (h : Alike (RenamedBy f ids) s t)
    (hcounters : s.counters = t.counters) : t = s.rename f := by
  obtain ⟨settings, aggressiveness, weights, spread, phase, counters⟩ := t
  obtain ⟨rfl, rfl, rfl, rfl, rfl, -⟩ := h
  obtain rfl : s.counters = counters := hcounters
  rfl

/-- **An example under other ids** comes to the same and leaves the same session, under other
ids. -/
theorem step_rename (hf : KeepsKeys f ids) (hs : ∀ a ∈ s.weights.keys, a ∈ ids)
    {x : Features ι α} (hx : ∀ g ∈ x, g.id ∈ ids) (target : α) :
    (s.rename f).step (x.map (Feature.rename f)) target =
        ((s.step x target).1.rename f, (s.step x target).2) ∧
      ∀ a ∈ (s.step x target).1.weights.keys, a ∈ ids := by
  obtain ⟨hresult, halike, counted, hcounted, hcounted'⟩ :=
    (alike_rename hs).step (matches_rename hf hx) target
  refine ⟨Prod.ext (halike.eq_rename ?_) hresult.symm, halike.weights.2⟩
  rw [hcounted, hcounted']
  rfl

/-- **A stream under other ids**, from any session that knows only ids of the list. -/
theorem feed_rename (hf : KeepsKeys f ids) (hs : ∀ a ∈ s.weights.keys, a ∈ ids)
    {stream : List (Example ι α)} (hstream : ∀ id ∈ vocabulary stream, id ∈ ids) :
    (s.rename f).feed (stream.map (Example.rename f)) =
      ((s.feed stream).1.rename f, (s.feed stream).2) := by
  induction stream generalizing s with
  | nil => rfl
  | cons e stream ih =>
    obtain ⟨x, target⟩ := e
    rw [vocabulary, List.flatMap_cons] at hstream
    obtain ⟨hx, hrest⟩ := List.forall_mem_append.1 hstream
    obtain ⟨hstep, hs'⟩ := step_rename hf hs (List.forall_mem_map.1 hx) target
    rw [List.map_cons, Example.rename, feed_cons, feed_cons, hstep, ih hs' hrest]

omit [Key ι] [Key κ] in
theorem create_rename (f : ι → κ) (settings : Settings α) :
    (create settings : Except _ (Session κ α)) =
      (create settings : Except _ (Session ι α)).map (Session.rename f) := by
  unfold create
  cases settings.resolvedAggressiveness <;> rfl

/-- **Ids are opaque.**  Rename the ids of a stream so that the new ones are keys where the old ones
were, and the same key where the old ones were.  A new session with the same settings then comes to
the same outcomes and faults, has the same spread and the same counters after every example, and in
the end hands over the same weights in the same order under the new ids. -/
theorem feed_renamed_stream {stream : List (Example ι α)} (hf : KeepsKeys f (vocabulary stream))
    {settings : Settings α} (hs : create settings = .ok s) :
    ∃ t : Session κ α, create settings = .ok t ∧
      (∀ seen, seen <+: stream →
        (t.feed (seen.map (Example.rename f))).2 = (s.feed seen).2 ∧
        (t.feed (seen.map (Example.rename f))).1.spread = (s.feed seen).1.spread ∧
        (t.feed (seen.map (Example.rename f))).1.counters = (s.feed seen).1.counters) ∧
      (t.feed (stream.map (Example.rename f))).1.finalize.2 =
        (s.feed stream).1.finalize.2.map fun e => (f e.1, e.2) := by
  have hnone : ∀ a ∈ s.weights.keys, a ∈ vocabulary stream := by
    rw [eq_of_create hs]
    exact fun a ha => (List.not_mem_nil ha).elim
  refine ⟨s.rename f, ?_, ?_, ?_⟩
  · rw [create_rename f settings, hs]
    rfl
  · rintro seen ⟨later, rfl⟩
    have hseen : ∀ id ∈ vocabulary seen, id ∈ vocabulary (seen ++ later) := fun id hid => by
      rw [vocabulary, List.flatMap_append]
      exact List.mem_append_left _ hid
    rw [feed_rename hf hnone hseen]
    exact ⟨rfl, rfl, rfl⟩
  · rw [feed_rename hf hnone fun _ hid => hid]
    rfl

/-- The whole number 1 becomes a text, in all its spellings, and every other id a tuple. -/
def retold (id : Value) : Value := if Key.same id (.int 1) then .text "one" else .tuple [id]

/-- A stream in which one key is spelt in three ways, and one example fails. -/
def respelt : List (Example Value Operand) :=
  [([⟨.int 1, .real (Number.ofInt 1)⟩], .int 3),
    ([⟨.text "a", .int 1⟩, ⟨.float (Number.ofInt 1), .int 2⟩], .int 1),
    ([⟨.text "b", .foreign .text⟩], .int 1),
    ([⟨.bool true, .int 1⟩, ⟨.text "b", .bool true⟩], .int 2)]

/-- The weights of that stream, under the other ids. -/
theorem feed_renamed_stream_respelt :
    KeepsKeys retold (vocabulary respelt) ∧
      ∃ t : OpenSession, Session.open ⟨.pa1a, none, Number.zero false⟩ = .ok t ∧
        (t.feed (respelt.map (Example.rename retold))).1.finalize.2.map (fun e => e.1.literal) =
          ["'one'", "('a',)", "('b',)"] := by
  have hf : KeepsKeys retold (vocabulary respelt) := ⟨by decide +kernel, by decide +kernel⟩
  have hs : create (Settings.map Scalar.real ⟨.pa1a, none, Number.zero false⟩) =
      .ok (untrained .pa1a) := create_of_open (open_untrained .pa1a)
  obtain ⟨t, ht, -, hweights⟩ := feed_renamed_stream hf hs
  obtain rfl : untrained .pa1a = t := Except.ok.inj (hs.symm.trans ht)
  refine ⟨hf, _, open_untrained .pa1a, ?_⟩
  rw [hweights]
  decide +kernel

end Session
end PassiveAggressive
