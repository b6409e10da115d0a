import PassiveAggressive.Proofs.Double.Zeros
import PassiveAggressive.Proofs.Session.Bookkeeping
import PassiveAggressive.Proofs.Session.Vocabulary

/-!
# What a session has learnt

The weights that a stream leaves behind, as whoever adds them up again has to know them:
they are doubles under ids of the stream, no two of which are the same key, and none of
them is negative zero (`learnt_feed`).  A weight under an id that a model does not know is
added to zero (`add_of_new`), and comes out as it was unless it is negative zero.
-/

namespace PassiveAggressive

open Scalar

variable {ι : Type} [Key ι]

/-- The operand is a double, and not negative zero. -/
def IsUnsigned (a : Scalar Float) : Prop := ∃ w, a = .real w ∧ ¬ Double.IsNegativeZero w

namespace WeightMap

variable {m m' : WeightMap ι (Scalar Float)} {id : ι}

/-- No weight is negative zero. -/
def Unsigned (m : WeightMap ι (Scalar Float)) : Prop := ∀ e ∈ m.entries, IsUnsigned e.2

theorem Unsigned.get (hm : m.Unsigned) {w : Scalar Float} (h : m.get id = .ok w) :
    IsUnsigned w :=
  of_get ⟨_, rfl, Double.not_isNegativeZero_zero⟩ hm h

/-- Whatever is added to a weight, it does not become negative zero. -/
theorem Unsigned.add (hm : m.Unsigned) {delta : Scalar Float} (h : m.add id delta = .ok m') :
    m'.Unsigned := by
  obtain ⟨w, hw, h⟩ := bind_eq_ok_iff.1 h
  obtain ⟨sum, hsum, h⟩ := bind_eq_ok_iff.1 h
  cases h
  obtain ⟨x, rfl, hx⟩ := hm.get hw
  obtain ⟨x', y, hx', -, rfl⟩ := (add_eq_ok_iff (.inl (isReal_real x))).1 hsum
  cases hx'
  exact forall_fileIn hm ⟨_, rfl, Double.not_isNegativeZero_add hx y⟩ id

theorem Unsigned.addAlong (hm : m.Unsigned) {coeff : Scalar Float} {x : Features ι (Scalar Float)}
    (h : m.addAlong coeff x = .ok m') : m'.Unsigned := by
  unfold WeightMap.addAlong at h
  induction x generalizing m with
  | nil =>
    cases h
    exact hm
  | cons f fs ih =>
    rw [List.foldlM_cons] at h
    obtain ⟨m₁, hfirst, h⟩ := bind_eq_ok_iff.1 h
    obtain ⟨share, -, hadd⟩ := bind_eq_ok_iff.1 hfirst
    exact ih (hm.add hadd) h

theorem fileIn_of_new {α : Type} {es : List (ι × α)}
    (hnew : ∀ e ∈ es, Key.same e.1 id = false) (w : α) : fileIn id w es = es ++ [(id, w)] := by
  induction es with
  | nil => rfl
  | cons e es ih =>
    obtain ⟨he, hes⟩ := List.forall_mem_cons.1 hnew
    rw [fileIn, he, if_neg Bool.false_ne_true, ih hes, List.cons_append]

/-- **Adding a weight under a new id** adds it to zero. -/
theorem add_of_new (hkey : Key.check id = .ok ()) (hnew : ∀ e ∈ m.entries, Key.same e.1 id = false)
    (w : Float) :
    m.add id (.real w) = .ok ⟨m.entries ++ [(id, .real (NumberSystem.add NumberSystem.zero w))]⟩ := by
  have hfind : m.find? id = none := by
    rw [find?, List.find?_eq_none.2 fun e he => by rw [hnew e he]; exact Bool.false_ne_true]
    rfl
  have hsum : Arithmetic.add (Arithmetic.zero : Scalar Float) (.real w) =
      .ok (.real (NumberSystem.add NumberSystem.zero w)) := rfl
  rw [add, get_eq hkey, hfind, ok_bind, Option.getD_none, hsum, ok_bind, insert,
    fileIn_of_new hnew]

end WeightMap

namespace Session

variable {s : Session ι (Scalar Float)}

/-- What the weights of a session are, whose ids are among the given ones. -/
structure Learnt (ids : List ι) (s : Session ι (Scalar Float)) : Prop where
  system : s.InSystem
  distinct : s.weights.DistinctKeys
  known : ∀ id ∈ s.weights.keys, id ∈ ids
  unsigned : s.weights.Unsigned

theorem Learnt.step {ids : List ι} (hs : Learnt ids s) {x : Features ι (Scalar Float)}
    (hx : ∀ f ∈ x, f.id ∈ ids) (target : Scalar Float) : Learnt ids (s.step x target).1 := by
  refine ⟨(hs.system.step x target).1, distinctKeys_step hs.distinct x target,
    fun id hid => ?_, ?_⟩
  · rcases mem_keys_step hid with hid | hid
    · exact hs.known id hid
    · obtain ⟨f, hf, rfl⟩ := List.mem_map.1 hid
      exact hx f hf
  · have hweights := hs.system.weights_step x target
    split at hweights
    · exact hs.unsigned.addAlong hweights
    · rw [hweights]
      exact hs.unsigned

/-- **The weights after a stream** are doubles, none of them negative zero, under ids of the stream
that are pairwise different keys. -/
theorem learnt_feed {settings : Settings Float} {s : OpenSession}
    (hopen : Session.open settings = .ok s) (stream : List (Example Value Operand)) :
    Learnt (vocabulary stream) (s.feed stream).1 := by
  refine feed_induction (P := Learnt (vocabulary stream)) (fun s e he hs => ?_) ?_
  · exact hs.step (fun f hf => List.mem_flatMap.2 ⟨e, he, List.mem_map_of_mem hf⟩) e.2
  · rw [eq_of_open hopen]
    have hsystem := (inSystem_of_open hopen).1
    rw [eq_of_open hopen] at hsystem
    exact ⟨hsystem, WeightMap.distinctKeys_empty, nofun, nofun⟩

end Session
end PassiveAggressive
