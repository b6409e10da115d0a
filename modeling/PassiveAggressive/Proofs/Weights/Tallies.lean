import PassiveAggressive.Proofs.Weights.Averaging

/-!
# What additions come to

A model that has been made by adding to its weights is told by the additions alone.  `tally`
says how, without a model: the first addition opens an entry, which takes in all later additions
under the same key, and the later additions under other keys make the other entries.  The
weight of an entry is the sum of its deltas from the left, begun at zero (`total`).

The additions are made one after the other, and each of them finds entries that others have
opened, so `tally` of all of them does not speak of a model on the way.  What carries the
induction is `prospect`: what the entries come to if the additions that are left are still to be
made.  One addition does not change it (`prospect_add`); in the end nothing is left, and it is
the entries themselves.

An id that is not the same key as itself opens an entry of its own whenever it is added to.
`tally` says so as it stands, and so the entries need no condition on the ids.

* `prospect_addAll`: the entries after some additions.
* `get_addAll`: what is read under an id after them.
* `isTally_ofPairs`: a model that has been added up, told by the additions.
-/

namespace PassiveAggressive
namespace WeightMap

open Weights (weightsIn firstSeen)

variable {ι α : Type} [Key ι]

/-! ## Tallies -/

/-- The additions by their keys: each key once, under the id by which it came up first, with all
that is added under it. -/
def tally : List (ι × α) → List (ι × List α)
  | [] => []
  | (id, delta) :: rest =>
    (id, delta :: weightsIn rest id) :: (tally rest).filter fun t => !Key.same id t.1

theorem weightsIn_cons (p : ι × α) (pairs : List (ι × α)) (id : ι) :
    weightsIn (p :: pairs) id =
      if Key.same p.1 id then p.2 :: weightsIn pairs id else weightsIn pairs id := by
  unfold weightsIn
  cases hsame : Key.same p.1 id <;> simp [hsame]

section Sums

variable [Arithmetic α]

/-- The deltas added to a weight, one after the other. -/
def sumFrom (w : α) (deltas : List α) : Except Fault α := deltas.foldlM Arithmetic.add w

/-- The sum of the deltas, begun at zero. -/
def total (deltas : List α) : Except Fault α := sumFrom Arithmetic.zero deltas

/-- Makes the additions, one after the other. -/
def addAll (m : WeightMap ι α) (pairs : List (ι × α)) : Except Fault (WeightMap ι α) :=
  pairs.foldlM (fun m p => m.add p.1 p.2) m

theorem sumFrom_cons {w delta sum : α} (h : Arithmetic.add w delta = .ok sum) (deltas : List α) :
    sumFrom w (delta :: deltas) = sumFrom sum deltas := by
  rw [sumFrom, List.foldlM_cons, h, ok_bind, sumFrom]

theorem sumFrom_append_singleton (w : α) (deltas : List α) (delta : α) :
    sumFrom w (deltas ++ [delta]) = sumFrom w deltas >>= (Arithmetic.add · delta) := by
  simp [sumFrom, List.foldlM_append]

theorem addAll_cons_eq_ok_iff {m m' : WeightMap ι α} {p : ι × α} {pairs : List (ι × α)} :
    m.addAll (p :: pairs) = .ok m' ↔ ∃ m₁, m.add p.1 p.2 = .ok m₁ ∧ m₁.addAll pairs = .ok m' := by
  rw [addAll, List.foldlM_cons]
  exact bind_eq_ok_iff

/-- The weight that is added to, the sum, and where it is filed. -/
theorem add_eq_insert_iff {m m' : WeightMap ι α} {id : ι} {delta : α} :
    m.add id delta = .ok m' ↔ Key.check id = .ok () ∧
      ∃ sum, Arithmetic.add ((m.find? id).getD Arithmetic.zero) delta = .ok sum ∧
        m' = m.insert id sum := by
  constructor
  · intro h
    obtain ⟨w, hget, h⟩ := bind_eq_ok_iff.1 h
    have hkey := check_of_get hget
    rw [get_eq hkey] at hget
    cases hget
    obtain ⟨sum, hsum, h⟩ := bind_eq_ok_iff.1 h
    exact ⟨hkey, sum, hsum, (Except.ok.inj h).symm⟩
  · rintro ⟨hkey, sum, hsum, rfl⟩
    rw [add, get_eq hkey, ok_bind, hsum, ok_bind]

theorem keys_addAll {m m' : WeightMap ι α} {pairs : List (ι × α)} (h : m.addAll pairs = .ok m') :
    m'.keys = (pairs.map Prod.fst).foldl fileKey m.keys := by
  induction pairs generalizing m with
  | nil =>
    cases h
    rfl
  | cons p pairs ih =>
    obtain ⟨m₁, hadd, h⟩ := addAll_cons_eq_ok_iff.1 h
    rw [ih h, (keys_add hadd).1, List.map_cons, List.foldl_cons]

end Sums

/-! ## What is still to be added -/

variable [LawfulKey ι]

/-- **Filing among distinct keys.**  The entry of the key takes the weight, and it is the only one;
if there is none, a new entry is put at the end. -/
theorem entries_insert {m : WeightMap ι α} (hm : m.DistinctKeys) (id : ι) (w : α) :
    (m.insert id w).entries =
      (m.entries.map fun e => if Key.same e.1 id then (e.1, w) else e) ++
        if (m.find? id).isNone then [(id, w)] else [] := by
  obtain ⟨es⟩ := m
  change fileIn id w es = _
  induction es with
  | nil => rfl
  | cons e es ih =>
    obtain ⟨hfirst, hrest⟩ := List.pairwise_cons.1 hm
    rw [fileIn, List.map_cons, find?_cons]
    cases hsame : Key.same e.1 id with
    | false =>
      rw [if_neg Bool.false_ne_true, if_neg Bool.false_ne_true, if_neg Bool.false_ne_true,
        ih hrest, List.cons_append]
    | true =>
      have hothers : ∀ d ∈ es, (if Key.same d.1 id then (d.1, w) else d) = d := by
        intro d hd
        have hne : Key.same d.1 id = false := by
          rw [← same_congr_right hsame, same_comm, hfirst d.1 (List.mem_map_of_mem hd)]
        rw [hne, if_neg Bool.false_ne_true]
      rw [List.map_congr_left hothers]
      simp

/-- The tallies of keys that a model does not have, after one more addition has been made: the
one that the addition opens is no longer among them. -/
theorem filter_tally_cons (m : WeightMap ι α) (id : ι) (delta w : α) (pairs : List (ι × α)) :
    ((tally ((id, delta) :: pairs)).filter fun t => (m.find? t.1).isNone) =
      (if (m.find? id).isNone then [(id, delta :: weightsIn pairs id)] else []) ++
        (tally pairs).filter fun t => ((m.insert id w).find? t.1).isNone := by
  have hfilter : ∀ t ∈ tally pairs, ((m.find? t.1).isNone && !Key.same id t.1) =
      ((m.insert id w).find? t.1).isNone := by
    intro t _
    rw [find?_insert]
    cases Key.same id t.1 <;> simp
  rw [tally, List.filter_cons, List.filter_filter, List.filter_congr hfilter]
  split <;> rfl

variable [Arithmetic α]

/-- What the entries of a model come to if the additions are still to be made: those that it has,
and those that the additions open. -/
def prospect (m : WeightMap ι α) (pairs : List (ι × α)) : List (ι × Except Fault α) :=
  (m.entries.map fun e => (e.1, sumFrom e.2 (weightsIn pairs e.1))) ++
    ((tally pairs).filter fun t => (m.find? t.1).isNone).map fun t => (t.1, total t.2)

omit [LawfulKey ι] in
theorem prospect_nil (m : WeightMap ι α) :
    m.prospect [] = m.entries.map fun e => (e.1, .ok e.2) := by
  simp [prospect, tally, weightsIn, sumFrom, pure, Except.pure]

omit [LawfulKey ι] in
theorem prospect_empty (pairs : List (ι × α)) :
    (empty : WeightMap ι α).prospect pairs = (tally pairs).map fun t => (t.1, total t.2) := by
  simp [prospect]

/-- **An addition does not change the prospect**, if it is one of those that were to be made. -/
theorem prospect_add {m m' : WeightMap ι α} (hm : m.DistinctKeys) {id : ι} {delta : α}
    (h : m.add id delta = .ok m') (pairs : List (ι × α)) :
    m'.prospect pairs = m.prospect ((id, delta) :: pairs) := by
  obtain ⟨-, sum, hsum, rfl⟩ := add_eq_insert_iff.1 h
  -- an entry of the key has taken the delta in
  have hold : ∀ e ∈ m.entries,
      ((fun e : ι × α => (e.1, sumFrom e.2 (weightsIn pairs e.1))) ∘
          fun e => if Key.same e.1 id then (e.1, sum) else e) e =
        (e.1, sumFrom e.2 (weightsIn ((id, delta) :: pairs) e.1)) := by
    intro e he
    rw [Function.comp_apply, weightsIn_cons, same_comm id e.1]
    cases hsame : Key.same e.1 id with
    | false => rw [if_neg Bool.false_ne_true, if_neg Bool.false_ne_true]
    | true =>
      have hself := LawfulKey.same_trans hsame (LawfulKey.same_symm hsame)
      rw [← find?_congr hsame, find?_of_mem hm he hself, Option.getD_some] at hsum
      rw [if_pos rfl, if_pos rfl, sumFrom_cons hsum]
  -- and if there is none, the entry that the addition makes is the tally that it opens
  have hnew : ((if (m.find? id).isNone then [(id, sum)] else []).map fun e : ι × α =>
        (e.1, sumFrom e.2 (weightsIn pairs e.1))) =
      (if (m.find? id).isNone then [(id, delta :: weightsIn pairs id)] else []).map fun t =>
        (t.1, total t.2) := by
    cases hfind : m.find? id with
    | some w => rfl
    | none =>
      rw [hfind, Option.getD_none] at hsum
      exact congrArg (fun r => [(id, r)]) (sumFrom_cons hsum _).symm
  rw [prospect, prospect, entries_insert hm, filter_tally_cons m id delta sum pairs,
    List.map_append, List.map_append, List.map_map, List.map_congr_left hold, hnew,
    List.append_assoc]

/-- **After all additions** the entries are what the prospect was. -/
theorem prospect_addAll {m m' : WeightMap ι α} (hm : m.DistinctKeys) {pairs : List (ι × α)}
    (h : m.addAll pairs = .ok m') :
    m.prospect pairs = m'.entries.map fun e => (e.1, .ok e.2) := by
  induction pairs generalizing m with
  | nil =>
    obtain rfl : m = m' := Except.ok.inj h
    exact prospect_nil m
  | cons p pairs ih =>
    obtain ⟨m₁, hadd, h⟩ := addAll_cons_eq_ok_iff.1 h
    rw [← prospect_add hm hadd pairs]
    exact ih ((keys_add hadd).2 hm) h

/-- The weight of an id takes in what is added under its key, and nothing else. -/
theorem get_addAll {m m' : WeightMap ι α} {pairs : List (ι × α)} (h : m.addAll pairs = .ok m')
    (id : ι) :
    m'.get id = m.get id >>= fun w => sumFrom w (weightsIn pairs id) := by
  induction pairs generalizing m with
  | nil =>
    obtain rfl : m = m' := Except.ok.inj h
    cases m.get id <;> rfl
  | cons p pairs ih =>
    obtain ⟨m₁, hadd, h⟩ := addAll_cons_eq_ok_iff.1 h
    obtain ⟨-, sum, hsum, rfl⟩ := add_eq_insert_iff.1 hadd
    rw [ih h, weightsIn_cons]
    cases hsame : Key.same p.1 id with
    | false =>
      rw [get_insert_of_ne hsame, if_neg Bool.false_ne_true]
    | true =>
      cases hkey : Key.check id with
      | error f => simp [get, hkey]
      | ok u =>
        rw [find?_congr hsame] at hsum
        rw [get_insert_of_same hsame hkey, get_eq hkey, ok_bind, ok_bind, if_pos rfl,
          sumFrom_cons hsum]

/-! ## Models that have been added up -/

/-- The model as the additions tell it that have made it. -/
structure IsTally (pairs : List (ι × α)) (m : WeightMap ι α) : Prop where
  /-- The entries are the tallies, each with its sum. -/
  entries : (m.entries.map fun e => (e.1, Except.ok e.2)) =
    (tally pairs).map fun t => (t.1, total t.2)
  /-- The ids stand where they come up first. -/
  keys : m.keys = firstSeen (pairs.map Prod.fst)
  distinct : m.DistinctKeys
  /-- What is read under an id is the sum of what has been added under its key. -/
  get_eq : ∀ id, m.get id = Key.check id >>= fun _ => total (weightsIn pairs id)
  /-- One more addition can be made if its id is a key and the sum goes on. -/
  add_iff : ∀ id delta, (∃ m', m.add id delta = .ok m') ↔
    Key.check id = .ok () ∧ ∃ w, total (weightsIn pairs id ++ [delta]) = .ok w

variable {m : WeightMap ι α} {pairs : List (ι × α)}

theorem get_ofPairs (h : ofPairs pairs = .ok m) (id : ι) :
    m.get id = Key.check id >>= fun _ => total (weightsIn pairs id) := by
  rw [get_addAll h, get, bind_assoc]
  rfl

theorem exists_add_iff (h : ofPairs pairs = .ok m) (id : ι) (delta : α) :
    (∃ m', m.add id delta = .ok m') ↔
      Key.check id = .ok () ∧ ∃ w, total (weightsIn pairs id ++ [delta]) = .ok w := by
  have hsum : Key.check id = .ok () → total (weightsIn pairs id ++ [delta]) =
      Arithmetic.add ((m.find? id).getD Arithmetic.zero) delta := by
    intro hkey
    have hget := get_ofPairs h id
    rw [get_eq hkey, hkey, ok_bind] at hget
    rw [total, sumFrom_append_singleton, ← total, ← hget, ok_bind]
  constructor
  · rintro ⟨m', hadd⟩
    obtain ⟨hkey, w, hw, -⟩ := add_eq_insert_iff.1 hadd
    exact ⟨hkey, w, (hsum hkey).trans hw⟩
  · rintro ⟨hkey, w, hw⟩
    exact ⟨_, add_eq_insert_iff.2 ⟨hkey, w, (hsum hkey).symm.trans hw, rfl⟩⟩

/-- **A model that has been added up is the tally of the additions.** -/
theorem isTally_ofPairs (h : ofPairs pairs = .ok m) : IsTally pairs m where
  entries := by rw [← prospect_addAll distinctKeys_empty h, prospect_empty]
  keys := keys_addAll h
  distinct := by
    rw [DistinctKeys, keys_addAll h]
    exact Weights.pairwise_firstSeen _
  get_eq := get_ofPairs h
  add_iff := exists_add_iff h

end WeightMap
end PassiveAggressive
