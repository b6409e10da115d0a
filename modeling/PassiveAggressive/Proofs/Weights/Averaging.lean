import Mathlib.Data.List.Perm.Basic
import PassiveAggressive.Proofs.Exact.Root
import PassiveAggressive.Proofs.Exact.Sum
import PassiveAggressive.Proofs.Weights.Loading

/-!
# The average of models

Ids that are texts or whole numbers of 64 bits stay what they are in the columns that models are
put into (`averageNumbers_eq`), and then they are grouped: each id comes once, where it first comes
up, and with it all its weights, in order (`group_eq`).  In exact arithmetic the weight it gets is
their mean, whichever way they are added up.

So the average does not depend on where the parts of the data begin and end
(`averageNumbers_exact`): models without weights count for nothing, copies of a model have the
model for their average, and the order of the models shows in nothing but the order of the ids.
-/

namespace PassiveAggressive
namespace Weights

/-! ## Groups -/

section Groups

variable {ι F : Type} [Key ι]

/-- The ids, each of them where it first comes up. -/
def firstSeen (ids : List ι) : List ι :=
  ids.foldl (fun seen id => if seen.any (Key.same · id) then seen else seen ++ [id]) []

/-- The weights of an id in some rows. -/
def weightsIn (rows : List (ι × F)) (id : ι) : List F :=
  (rows.filter fun r => Key.same r.1 id).map Prod.snd

theorem firstSeen_append_singleton (ids : List ι) (id : ι) :
    firstSeen (ids ++ [id]) =
      if (firstSeen ids).any (Key.same · id) then firstSeen ids else firstSeen ids ++ [id] := by
  simp [firstSeen]

theorem firstSeen_subset (ids : List ι) : firstSeen ids ⊆ ids := by
  induction ids using List.reverseRecOn with
  | nil => exact List.Subset.refl []
  | append_singleton ids id ih =>
    rw [firstSeen_append_singleton]
    split
    · exact List.Subset.trans ih (List.subset_append_left ids [id])
    · exact List.append_subset.2 ⟨List.Subset.trans ih (List.subset_append_left ids [id]),
        List.subset_append_right ids [id]⟩

theorem pairwise_firstSeen (ids : List ι) :
    (firstSeen ids).Pairwise fun a b => Key.same a b = false := by
  induction ids using List.reverseRecOn with
  | nil => exact .nil
  | append_singleton ids id ih =>
    rw [firstSeen_append_singleton]
    split
    · exact ih
    · rename_i hnew
      refine List.pairwise_append.2 ⟨ih, List.pairwise_singleton _ _, fun a ha b hb => ?_⟩
      rw [List.mem_singleton.1 hb]
      exact Bool.eq_false_iff.2 fun hsame => hnew (List.any_eq_true.2 ⟨a, ha, hsame⟩)

/-- Every id is there, or one that is the same key. -/
theorem exists_mem_firstSeen {ids : List ι} {id : ι} (hid : id ∈ ids)
    (hself : Key.same id id = true) : ∃ a ∈ firstSeen ids, Key.same a id = true := by
  induction ids using List.reverseRecOn with
  | nil => exact absurd hid List.not_mem_nil
  | append_singleton ids last ih =>
    rw [firstSeen_append_singleton]
    rcases List.mem_append.1 hid with hid | hid
    · obtain ⟨a, ha, hsame⟩ := ih hid
      refine ⟨a, ?_, hsame⟩
      split
      · exact ha
      · exact List.mem_append_left _ ha
    · obtain rfl := List.mem_singleton.1 hid
      split
      · rename_i hseen
        exact List.any_eq_true.1 hseen
      · exact ⟨id, List.mem_append_right _ (List.mem_singleton_self id), hself⟩

theorem firstSeen_eq_self {ids : List ι} (h : ids.Pairwise fun a b => Key.same a b = false) :
    firstSeen ids = ids := by
  induction ids using List.reverseRecOn with
  | nil => rfl
  | append_singleton ids id ih =>
    obtain ⟨hids, -, hnew⟩ := List.pairwise_append.1 h
    rw [firstSeen_append_singleton, ih hids, if_neg]
    rw [List.any_eq_true]
    rintro ⟨a, ha, hsame⟩
    rw [hnew a ha id (List.mem_singleton_self id)] at hsame
    cases hsame

theorem firstSeen_append_of_seen {ids more : List ι}
    (h : ∀ id ∈ more, ∃ a ∈ firstSeen ids, Key.same a id = true) :
    firstSeen (ids ++ more) = firstSeen ids := by
  induction more using List.reverseRecOn with
  | nil => rw [List.append_nil]
  | append_singleton more id ih =>
    rw [List.forall_mem_append] at h
    rw [← List.append_assoc, firstSeen_append_singleton, ih h.1, if_pos]
    exact List.any_eq_true.2 (h.2 id (List.mem_singleton_self id))

theorem group_append_singleton (rows : List (ι × F)) (row : ι × F) :
    group (rows ++ [row]) =
      ((⟨group rows⟩ : WeightMap ι (List F)).insert row.1
        (((⟨group rows⟩ : WeightMap ι (List F)).find? row.1).getD [] ++ [row.2])).entries := by
  simp [group]

theorem keys_group (rows : List (ι × F)) :
    (⟨group rows⟩ : WeightMap ι (List F)).keys = firstSeen (rows.map Prod.fst) := by
  induction rows using List.reverseRecOn with
  | nil => rfl
  | append_singleton rows row ih =>
    rw [group_append_singleton, List.map_append, List.map_singleton, firstSeen_append_singleton,
      ← ih]
    exact WeightMap.keys_insert _ _ _

theorem distinctKeys_group (rows : List (ι × F)) :
    (⟨group rows⟩ : WeightMap ι (List F)).DistinctKeys := by
  induction rows using List.reverseRecOn with
  | nil => exact WeightMap.distinctKeys_empty
  | append_singleton rows row ih =>
    rw [group_append_singleton]
    exact WeightMap.distinctKeys_insert ih _ _

variable [LawfulKey ι]

/-- A group holds the weights of its id. -/
theorem find?_group (rows : List (ι × F)) (id : ι) :
    ((⟨group rows⟩ : WeightMap ι (List F)).find? id).getD [] = weightsIn rows id := by
  induction rows using List.reverseRecOn with
  | nil => rfl
  | append_singleton rows row ih =>
    have hinsert := WeightMap.find?_insert (⟨group rows⟩ : WeightMap ι (List F)) row.1 id
      (((⟨group rows⟩ : WeightMap ι (List F)).find? row.1).getD [] ++ [row.2])
    rw [group_append_singleton]
    refine (congrArg (Option.getD · []) hinsert).trans ?_
    rw [weightsIn, List.filter_append, List.map_append, ← weightsIn, ← ih]
    cases hsame : Key.same row.1 id with
    | true =>
      rw [if_pos rfl, Option.getD_some, WeightMap.find?_congr hsame]
      simp [hsame]
    | false =>
      rw [if_neg Bool.false_ne_true]
      simp [hsame]

/-- **Each id comes once, where it first comes up**, with all its weights. -/
theorem group_eq {rows : List (ι × F)} (hself : ∀ r ∈ rows, Key.same r.1 r.1 = true) :
    group rows = (firstSeen (rows.map Prod.fst)).map fun id => (id, weightsIn rows id) := by
  have hentries : ∀ e ∈ group rows, (e.1, weightsIn rows e.1) = e := by
    intro e he
    have hid : e.1 ∈ rows.map Prod.fst :=
      firstSeen_subset _ (keys_group rows ▸ List.mem_map_of_mem he)
    obtain ⟨r, hr, hr1⟩ := List.mem_map.1 hid
    have hfind := WeightMap.find?_of_mem (distinctKeys_group rows) he (hr1 ▸ hself r hr)
    rw [← find?_group, hfind]
    rfl
  calc group rows = (group rows).map fun e => (e.1, weightsIn rows e.1) :=
        ((List.map_congr_left hentries).trans (List.map_id _)).symm
    _ = ((group rows).map Prod.fst).map fun id => (id, weightsIn rows id) := by
        rw [List.map_map]
        rfl
    _ = (firstSeen (rows.map Prod.fst)).map fun id => (id, weightsIn rows id) :=
        congrArg _ (keys_group rows)

/-- Where ids are distinct keys, each has at most one weight. -/
theorem weightsIn_eq_toList {m : WeightMap ι F} (hm : m.DistinctKeys) (id : ι) :
    weightsIn m.entries id = (m.find? id).toList := by
  obtain ⟨es⟩ := m
  induction es with
  | nil => rfl
  | cons e es ih =>
    obtain ⟨hfirst, hrest⟩ := List.pairwise_cons.1 hm
    rw [WeightMap.find?_cons]
    cases hsame : Key.same e.1 id with
    | false => simpa [weightsIn, hsame] using ih hrest
    | true =>
      have hnone : weightsIn es id = [] := by
        rw [weightsIn, List.map_eq_nil_iff, List.filter_eq_nil_iff]
        intro d hd hdsame
        have hde := LawfulKey.same_trans hsame (LawfulKey.same_symm hdsame)
        rw [hfirst d.1 (List.mem_map_of_mem hd)] at hde
        cases hde
      simpa [weightsIn, hsame] using hnone

end Groups

/-! ## Models put together -/

section Models

variable {F : Type}

/-- The weights that the models have for an id. -/
def weightsUnder (models : List (List (Value × F))) (id : Value) : List F :=
  models.filterMap fun m => (⟨m⟩ : WeightMap Value F).find? id

/-- How many models have a weight for an id. -/
def modelsWith (models : List (List (Value × F))) (id : Value) : Nat :=
  models.countP fun m => m.any fun e => Key.same e.1 id

/-- The ids of the models, each where it first comes up. -/
def idsOf (models : List (List (Value × F))) : List Value := firstSeen (models.flatten.map Prod.fst)

theorem length_weightsUnder (models : List (List (Value × F))) (id : Value) :
    (weightsUnder models id).length = modelsWith models id := by
  rw [weightsUnder, List.length_filterMap_eq_countP, modelsWith]
  refine congrArg (List.countP · models) (funext fun m => ?_)
  rw [WeightMap.find?, Option.isSome_map, List.isSome_find?]

theorem weightsIn_flatten {models : List (List (Value × F))}
    (h : ∀ m ∈ models, (⟨m⟩ : WeightMap Value F).DistinctKeys) (id : Value) :
    weightsIn models.flatten id = weightsUnder models id := by
  rw [weightsIn, List.filter_flatten, List.map_flatten, List.map_map, weightsUnder,
    List.filterMap_eq_flatMap_toList, List.flatMap_def]
  exact congrArg List.flatten (List.map_congr_left fun m hm => weightsIn_eq_toList (h m hm) id)

end Models

/-! ## Ids in columns -/

/-- A text, or a whole number of 64 bits with a sign. -/
def IsColumnId : Value → Prop
  | .text _ => True
  | .int n => Number.fitsSigned n = true
  | _ => False

theorem IsColumnId.isTextOrWhole {id : Value} (h : IsColumnId id) : IsTextOrWhole id := by
  cases id with
  | text | int => trivial
  | _ => exact h.elim

theorem IsColumnId.check {id : Value} (h : IsColumnId id) : Key.check id = .ok () := by
  cases id with
  | text | int => rfl
  | _ => exact h.elim

theorem IsColumnId.isMissingId {id : Value} (h : IsColumnId id) : isMissingId id = false := by
  cases id with
  | text | int => rfl
  | _ => exact h.elim

theorem IsColumnId.same_iff {a b : Value} (ha : IsColumnId a) (hb : IsColumnId b) :
    Key.same a b = true ↔ a = b :=
  same_iff_eq ha.isTextOrWhole hb.isTextOrWhole

theorem IsColumnId.same_self {id : Value} (h : IsColumnId id) : Key.same id id = true :=
  (h.same_iff h).2 rfl

/-- Ids stay what they are in such a column, alone and beside others of the kind. -/
def Content.KeepsIds (c : Content) : Prop := c ≠ .unsigned ∧ c ≠ .real

theorem settle_of_keepsIds {c : Content} (h : c.KeepsIds) (v : Value) : settle c v = v := by
  cases c with
  | real => exact absurd rfl h.2
  | _ => rfl

theorem keepsIds_join {a b : Content} (ha : a.KeepsIds) (hb : b.KeepsIds) :
    (a.join b).KeepsIds := by
  revert ha hb
  unfold Content.KeepsIds
  cases a <;> cases b <;> decide

theorem keepsIds_content {ids : List Value} (h : ∀ id ∈ ids, IsColumnId id) :
    (content ids).KeepsIds := by
  refine ⟨?_, content_ne_real fun id hid => ?_⟩
  · unfold content
    split
    · rename_i ns hns
      have hfits : ns.all Number.fitsSigned = true := by
        refine List.all_eq_true.2 fun n hn => ?_
        obtain ⟨v, hv, hint⟩ := exists_mem_of_forall₂ (mapM_eq_some_iff.1 hns).flip n hn
        have hid := h v hv
        cases v with
        | int m =>
          obtain rfl : m = n := Option.some.inj hint
          exact hid
        | _ => cases hint
      rw [if_pos hfits]
      nofun
    · split
      · nofun
      · split <;> nofun
  · have hcolumn := h id hid
    cases id with
    | text s => exact .inl ⟨s, rfl⟩
    | int n => exact .inr ⟨n, rfl⟩
    | _ => exact hcolumn.elim

/-- **Ids stay what they are** when their columns are put below each other. -/
theorem stacked_ids {columns : List (List Value)} (h : ∀ ids ∈ columns, ∀ id ∈ ids, IsColumnId id) :
    stacked columns = columns := by
  have hcontents : ∀ c ∈ columns.map content, c.KeepsIds :=
    List.forall_mem_map.2 fun ids hids => keepsIds_content (h ids hids)
  have hfold : ∀ (cs : List Content) (c : Content), c.KeepsIds → (∀ d ∈ cs, d.KeepsIds) →
      (cs.foldl Content.join c).KeepsIds := by
    intro cs
    induction cs with
    | nil => exact fun c hc _ => hc
    | cons d cs ih =>
      intro c hc hcs
      obtain ⟨hd, hcs⟩ := List.forall_mem_cons.1 hcs
      exact ih _ (keepsIds_join hc hd) hcs
  have hpairs : ∀ whole : Content, whole.KeepsIds →
      ((columns.zip (columns.map content)).map fun p =>
        p.1.map fun v => settle whole (settle p.2 v)) = columns := by
    intro whole hwhole
    rw [← List.map_prod_left_eq_zip, List.map_map]
    refine (List.map_congr_left fun ids hids => ?_).trans (List.map_id _)
    refine (List.map_congr_left fun v _ => ?_).trans (List.map_id _)
    rw [settle_of_keepsIds hwhole, settle_of_keepsIds (keepsIds_content (h ids hids))]
    rfl
  unfold stacked
  refine hpairs _ ?_
  cases hc : columns.map content with
  | nil => exact ⟨nofun, nofun⟩
  | cons c cs =>
    rw [hc] at hcontents
    obtain ⟨hc, hcs⟩ := List.forall_mem_cons.1 hcontents
    exact hfold cs c hc hcs

/-! ## The average in any system of numbers -/

/-- Models whose ids are texts or whole numbers of 64 bits, in each model pairwise different. -/
structure Averageable {F : Type} (models : List (List (Value × F))) : Prop where
  ids : ∀ m ∈ models, ∀ e ∈ m, IsColumnId e.1
  distinct : ∀ m ∈ models, (m.map Prod.fst).Nodup

section Systems

variable {F : Type} {models : List (List (Value × F))}

theorem Averageable.isColumnId (h : Averageable models) : ∀ e ∈ models.flatten, IsColumnId e.1 := by
  intro e he
  obtain ⟨m, hm, he⟩ := List.mem_flatten.1 he
  exact h.ids m hm e he

theorem Averageable.distinctKeys (h : Averageable models) :
    ∀ m ∈ models, (⟨m⟩ : WeightMap Value F).DistinctKeys := by
  intro m hm
  refine (h.distinct m hm).imp_of_mem fun {a b} ha hb hab => Bool.eq_false_iff.2 fun hsame => hab ?_
  obtain ⟨e, he, rfl⟩ := List.mem_map.1 ha
  obtain ⟨e', he', rfl⟩ := List.mem_map.1 hb
  exact ((h.ids m hm e he).same_iff (h.ids m hm e' he')).1 hsame

theorem Averageable.map {G : Type} (h : Averageable models) (f : F → G) :
    Averageable (models.map fun m => m.map fun e => (e.1, f e.2)) where
  ids := List.forall_mem_map.2 fun m hm => List.forall_mem_map.2 (h.ids m hm)
  distinct := List.forall_mem_map.2 fun m hm => by
    have hfst : (m.map fun e => (e.1, f e.2)).map Prod.fst = m.map Prod.fst := List.map_map
    rw [hfst]
    exact h.distinct m hm

theorem nodup_idsOf (h : Averageable models) : (idsOf models).Nodup := by
  have hmem : ∀ id ∈ idsOf models, IsColumnId id := fun id hid => by
    obtain ⟨e, he, rfl⟩ := List.mem_map.1 (firstSeen_subset _ hid)
    exact h.isColumnId e he
  refine (pairwise_firstSeen _).imp_of_mem fun ha hb hsame heq => ?_
  rw [((hmem _ ha).same_iff (hmem _ hb)).2 heq] at hsame
  cases hsame

theorem mem_idsOf (h : Averageable models) {id : Value} :
    id ∈ idsOf models ↔ ∃ m ∈ models, id ∈ m.map Prod.fst := by
  have hmem : id ∈ models.flatten.map Prod.fst ↔ ∃ m ∈ models, id ∈ m.map Prod.fst := by
    rw [List.map_flatten, ← List.flatMap_def, List.mem_flatMap]
  rw [← hmem]
  refine ⟨fun hid => firstSeen_subset _ hid, fun hid => ?_⟩
  obtain ⟨e, he, rfl⟩ := List.mem_map.1 hid
  have hcolumn := h.isColumnId e he
  obtain ⟨a, ha, hsame⟩ := exists_mem_firstSeen hid hcolumn.same_self
  obtain ⟨e', he', rfl⟩ := List.mem_map.1 (firstSeen_subset _ ha)
  rw [← ((h.isColumnId e' he').same_iff hcolumn).1 hsame]
  exact ha

theorem Averageable.subset {models' : List (List (Value × F))} (h : Averageable models)
    (hsubset : models' ⊆ models) : Averageable models' where
  ids m hm := h.ids m (hsubset hm)
  distinct m hm := h.distinct m (hsubset hm)

theorem idsOf_replicate {m : List (Value × F)} (h : Averageable [m]) (n : Nat) :
    idsOf (List.replicate (n + 1) m) = m.map Prod.fst := by
  have hm : m ∈ [m] := List.mem_singleton_self m
  have hfirst : firstSeen (m.map Prod.fst) = m.map Prod.fst :=
    firstSeen_eq_self (h.distinctKeys m hm)
  rw [idsOf, List.replicate_succ, List.flatten_cons, List.map_append]
  refine (firstSeen_append_of_seen fun id hid => ?_).trans hfirst
  obtain ⟨e, he, rfl⟩ := List.mem_map.1 hid
  obtain ⟨m', hm', hem⟩ := List.mem_flatten.1 he
  obtain rfl := List.eq_of_mem_replicate hm'
  exact ⟨e.1, hfirst.symm ▸ List.mem_map_of_mem hem, (h.ids m' hm e hem).same_self⟩

theorem weightsUnder_replicate {m : List (Value × F)} (h : Averageable [m]) (n : Nat)
    {e : Value × F} (he : e ∈ m) :
    weightsUnder (List.replicate n m) e.1 = List.replicate n e.2 := by
  have hm : m ∈ [m] := List.mem_singleton_self m
  have hfind : (⟨m⟩ : WeightMap Value F).find? e.1 = some e.2 :=
    WeightMap.find?_of_mem (h.distinctKeys m hm) he (h.ids m hm e he).same_self
  exact List.filterMap_replicate_of_some
    (f := fun m => (⟨m⟩ : WeightMap Value F).find? e.1) hfind

variable [NumberSystem F]

theorem averageNumbers_nonempty (models : List (List (Value × F))) :
    averageNumbers (models.filter fun m => !m.isEmpty) = averageNumbers models := by
  simp only [averageNumbers, List.filter_filter, Bool.and_self]

/-- **The models are put below each other**, and the weights of each id are averaged. -/
theorem averageNumbers_eq (h : Averageable models) :
    averageNumbers models = meansOf isMissingId models.flatten := by
  have hstacked : stacked ((models.filter fun m => !m.isEmpty).map fun m => m.map Prod.fst) =
      (models.filter fun m => !m.isEmpty).map fun m => m.map Prod.fst := by
    refine stacked_ids (List.forall_mem_map.2 fun m hm => List.forall_mem_map.2 fun e he => ?_)
    exact h.ids m (List.mem_of_mem_filter hm) e he
  have hflatten : (models.filter fun m => !m.isEmpty).flatten = models.flatten :=
    List.flatten_filter_not_isEmpty
  simp only [averageNumbers, hstacked]
  rw [← List.map_flatten, ← List.map_flatten, hflatten, List.zip_map', List.map_id']

theorem stacked_floats (columns : List (List Float)) :
    stacked (columns.map fun ws => ws.map .float) = columns.map fun ws => ws.map .float := by
  have hsettle : ∀ (c : Content) (w : Float), settle c (.float w) = .float w := fun c w => by
    cases c <;> rfl
  simp only [stacked]
  rw [← List.map_prod_left_eq_zip, List.map_map, List.map_map]
  refine List.map_congr_left fun ws _ => ?_
  simp only [Function.comp_def, List.map_map, hsettle]

/-- **Models of doubles** are averaged as they are. -/
theorem average_floats {models : List (List (Value × Float))} (h : Averageable models) :
    average (models.map fun m => m.map fun e => (e.1, .float e.2)) =
      .ok (averageNumbers models) := by
  let nonempty := models.filter fun m => !m.isEmpty
  have hfilter : ((models.map fun m => m.map fun e => (e.1, Value.float e.2)).filter
      fun m => !m.isEmpty) = nonempty.map fun m => m.map fun e => (e.1, Value.float e.2) := by
    rw [List.filter_map]
    simp only [Function.comp_def, List.isEmpty_map, nonempty]
  have hweights := stacked_floats (nonempty.map fun m => m.map Prod.snd)
  simp only [List.map_map, Function.comp_def] at hweights
  simp only [average, hfilter, List.map_map, Function.comp_def, hweights]
  rw [List.zip_map']
  refine bind_eq_ok_iff.2 ⟨nonempty, mapM_eq_ok_iff.2 ?_, congrArg Except.ok (averageNumbers_nonempty models)⟩
  rw [List.forall₂_map_left_iff]
  refine List.forall₂_same.2 fun m hm => ?_
  simp only [List.zip_map']
  rw [mapM_eq_ok_iff, List.forall₂_map_left_iff]
  refine List.forall₂_same.2 fun e he => ?_
  simp only [(h.ids m (List.mem_of_mem_filter hm) e he).check, ok_bind]
  rfl

end Systems

/-! ## The average in exact arithmetic -/

section Exact

variable {K : Type} [Field K] [LinearOrder K] [SquareRoot K]

/-- The weights of a model as exact numbers. -/
def exactly (m : List (Value × K)) : List (Value × Exact K) := m.map fun e => (e.1, .finite e.2)

/-- **The mean of an id does not depend on the way its weights are added up.** -/
theorem meansOf_exactly {rows : List (Value × K)} (h : ∀ e ∈ rows, IsColumnId e.1) :
    meansOf isMissingId (exactly rows) = (firstSeen (rows.map Prod.fst)).map fun id =>
      (id, .finite (mean (weightsIn rows id))) := by
  have hids : ∀ e ∈ exactly rows, IsColumnId e.1 := List.forall_mem_map.2 h
  have hknown : (exactly rows).filter (fun e => !isMissingId e.1) = exactly rows :=
    List.filter_eq_self.2 fun e he => by rw [(hids e he).isMissingId]; rfl
  have hfst : (exactly rows).map Prod.fst = rows.map Prod.fst := List.map_map
  have hweights : ∀ id, weightsIn (exactly rows) id = (weightsIn rows id).map .finite := by
    intro id
    rw [weightsIn, weightsIn, exactly, List.filter_map, List.map_map, List.map_map]
    rfl
  simp only [meansOf, hknown]
  rw [group_eq fun e he => (hids e he).same_self, hfst, List.map_map]
  refine List.map_congr_left fun id _ => ?_
  simp only [Function.comp_def, hweights, togetherMean_finite, carriedMean_finite, ite_self]

variable {models : List (List (Value × K))}

/-- **The average of models**: each id, where it first comes up, with the sum of its weights divided
by the number of models that have it. -/
theorem Averageable.averageNumbers_eq_map (h : Averageable models) :
    averageNumbers (models.map exactly) = (idsOf models).map fun id =>
      (id, .finite ((weightsUnder models id).sum / modelsWith models id)) := by
  have hrows : averageNumbers (models.map exactly) = meansOf isMissingId (exactly models.flatten) :=
    (averageNumbers_eq (h.map Exact.finite)).trans
      (congrArg (meansOf isMissingId) List.map_flatten.symm)
  rw [hrows, meansOf_exactly h.isColumnId]
  refine List.map_congr_left fun id _ => ?_
  rw [mean, weightsIn_flatten h.distinctKeys, length_weightsUnder]

/-- **The order of the models** shows in nothing but the order of the ids. -/
theorem Averageable.averageNumbers_perm {models' : List (List (Value × K))} (h : Averageable models)
    (hperm : models'.Perm models) :
    (averageNumbers (models'.map exactly)).Perm (averageNumbers (models.map exactly)) := by
  have h' : Averageable models' := h.subset hperm.subset
  have hids : (idsOf models').Perm (idsOf models) := by
    refine (List.perm_ext_iff_of_nodup (nodup_idsOf h') (nodup_idsOf h)).2 fun id => ?_
    rw [mem_idsOf h', mem_idsOf h]
    exact exists_congr fun m => and_congr_left' hperm.mem_iff
  have hentry : ∀ id, (weightsUnder models' id).sum / (modelsWith models' id : K) =
      (weightsUnder models id).sum / modelsWith models id := by
    intro id
    rw [weightsUnder, modelsWith, (hperm.filterMap _).sum_eq, hperm.countP_eq]
    rfl
  rw [h'.averageNumbers_eq_map, h.averageNumbers_eq_map]
  simp only [hentry]
  exact hids.map _

variable [IsStrictOrderedRing K]

/-- **Copies of a model** have the model for their average. -/
theorem averageNumbers_replicate {m : List (Value × K)} (h : Averageable [m]) (n : Nat) :
    averageNumbers (List.replicate (n + 1) (exactly m)) = exactly m := by
  have hsubset : List.replicate (n + 1) m ⊆ [m] := fun m' hm' =>
    List.mem_singleton.2 (List.eq_of_mem_replicate hm')
  have hpositive : ((n + 1 : Nat) : K) ≠ 0 := Nat.cast_ne_zero.2 n.succ_ne_zero
  rw [← List.map_replicate, (h.subset hsubset).averageNumbers_eq_map, idsOf_replicate h,
    List.map_map, exactly]
  refine List.map_congr_left fun e he => Prod.ext rfl (congrArg Exact.finite ?_)
  rw [← length_weightsUnder, weightsUnder_replicate h _ he, List.length_replicate,
    List.sum_replicate, nsmul_eq_mul, mul_div_cancel_left₀ _ hpositive]

/-- **The average of models over the partitions of the data.**  It has every id that some model has,
once, in the order in which they first come up, with the sum of its weights divided by the number of
models that have it.  Ids are told apart by what they are, a number from the text that shows it.
Models without weights count for nothing, copies of one model have it for their average, and the
order of the models shows in nothing but the order of the ids.  And models of doubles are averaged
by the same function, in their own arithmetic. -/
theorem averageNumbers_exact {models : List (List (Value × K))} (h : Averageable models) :
    (averageNumbers (models.map exactly) = (idsOf models).map fun id =>
        (id, .finite ((weightsUnder models id).sum / modelsWith models id))) ∧
      (idsOf models).Nodup ∧
      (∀ id, id ∈ idsOf models ↔ ∃ m ∈ models, id ∈ m.map Prod.fst) ∧
      (∀ id ∈ idsOf models, ∀ m ∈ models, ∀ e ∈ m, Key.same e.1 id = true ↔ e.1 = id) ∧
      averageNumbers ((models.map exactly).filter fun m => !m.isEmpty) =
        averageNumbers (models.map exactly) ∧
      (∀ m ∈ models, ∀ n,
        averageNumbers (List.replicate (n + 1) (exactly m)) = exactly m) ∧
      (∀ models' : List (List (Value × K)), models'.Perm models →
        (averageNumbers (models'.map exactly)).Perm (averageNumbers (models.map exactly))) ∧
      ∀ doubles : List (List (Value × Float)), Averageable doubles →
        average (doubles.map fun m => m.map fun e => (e.1, .float e.2)) =
          .ok (averageNumbers doubles) := by
  refine ⟨h.averageNumbers_eq_map, nodup_idsOf h, fun id => mem_idsOf h, fun id hid m hm e he => ?_,
    averageNumbers_nonempty _, fun m hm n => ?_, fun models' => h.averageNumbers_perm,
    fun doubles => average_floats⟩
  · obtain ⟨m', hm', hid⟩ := (mem_idsOf h).1 hid
    obtain ⟨e', he', rfl⟩ := List.mem_map.1 hid
    exact (h.ids m hm e he).same_iff (h.ids m' hm' e' he')
  · exact averageNumbers_replicate (h.subset (List.cons_subset.2 ⟨hm, List.nil_subset models⟩)) n

/-- The number one and the text of it are two ids, and of three models two have the text. -/
theorem averageNumbers_exact_overlapping :
    averageNumbers (([[(.int 1, 2), (.text "1", 4)], [], [(.text "a,b", -1), (.text "1", 7)]] :
        List (List (Value × ℝ))).map exactly) =
      [(.int 1, .finite 2), (.text "1", .finite (11 / 2)), (.text "a,b", .finite (-1))] ∧
    averageNumbers (List.replicate 3 (exactly [(.int 1, (2 : ℝ)), (.text "1", 4)])) =
      exactly [(.int 1, 2), (.text "1", 4)] := by
  let models : List (List (Value × ℝ)) :=
    [[(.int 1, 2), (.text "1", 4)], [], [(.text "a,b", -1), (.text "1", 7)]]
  have h : Averageable models :=
    { ids := by
        simp only [models, List.forall_mem_cons]
        exact ⟨⟨rfl, trivial, nofun⟩, nofun, ⟨trivial, trivial, nofun⟩, nofun⟩
      distinct := by simp [models] }
  obtain ⟨haverage, -, -, -, -, hcopies, -, -⟩ := averageNumbers_exact h
  refine ⟨haverage.trans ?_, hcopies _ (List.mem_cons_self ..) 2⟩
  have hids : idsOf models = [.int 1, .text "1", .text "a,b"] := rfl
  have hint : weightsUnder models (.int 1) = [2] := rfl
  have htext : weightsUnder models (.text "1") = [4, 7] := rfl
  have hcomma : weightsUnder models (.text "a,b") = [-1] := rfl
  rw [hids]
  simp only [List.map_cons, List.map_nil, ← length_weightsUnder, hint, htext, hcomma]
  norm_num

end Exact

end Weights
end PassiveAggressive
