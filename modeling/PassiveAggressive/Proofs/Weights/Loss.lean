import PassiveAggressive.Proofs.Session.FiniteWeights
import PassiveAggressive.Proofs.Weights.Loading

/-!
# Ids that are lost

An id that does not come back from its cell spoils the file it is written to.  If its text
stands for a missing value, the file cannot be loaded at all.  If it breaks, a piece of it
is a row without a weight, and what is added to some id then is no number.  A weight that
is not finite remains so whatever the rows after it add (`spoilt_addRows`), so the model
that is loaded has one, and its scores show it (`score_ne_of_spoilt`).
-/

namespace PassiveAggressive
namespace WeightMap

open Scalar

variable {ι : Type} [Key ι] {m m' : WeightMap ι (Scalar Float)} {id id' : ι}

theorem Finite.get (hm : m.Finite) {w : Float} (hget : m.get id = .ok (.real w)) :
    NumberSystem.isFinite w = true := by
  have hfinite : Arithmetic.isFinite (Scalar.real w) = .ok true :=
    of_get (P := fun a => Arithmetic.isFinite a = .ok true) (by decide +kernel) hm hget
  exact Except.ok.inj hfinite

/-! ## Scores -/

/-- The features with one id, whose value is zero. -/
def zeroed (id : ι) : Features ι (Scalar Float) := [⟨id, .real NumberSystem.zero⟩]

theorem score_zeroed {w : Float} (hget : m.get id = .ok (.real w)) :
    m.score (zeroed id) = .ok (.real (NumberSystem.add NumberSystem.zero
      (NumberSystem.mul w NumberSystem.zero))) := by
  rw [score, zeroed, List.foldlM_cons, addToScore, hget]
  rfl

/-- **A spoilt weight shows in a score**, for zero times what is not finite is not finite. -/
theorem score_ne_of_spoilt (hm : m.Finite) (hsystem : m.InSystem) (h : m'.Spoilt id) :
    m'.score (zeroed id) ≠ m.score (zeroed id) := by
  obtain ⟨w', hget', hw'⟩ := h
  obtain ⟨w, hget⟩ := hsystem.exists_get (check_of_get hget')
  have hw := hm.get hget
  rw [score_zeroed hget', score_zeroed hget]
  intro hsame
  rw [← Double.isFinite_add_mul_zero w, ← Scalar.real.inj (Except.ok.inj hsame),
    Double.isFinite_add_mul_zero, hw'] at hw
  cases hw

/-! ## Adding what is no number -/

variable [LawfulKey ι]

theorem spoilt_of_add_nan (hsystem : m.InSystem) (hsame : Key.same id id = true)
    (hadd : m.add id (.real Number.nan) = .ok m') : m'.Spoilt id := by
  obtain ⟨old, hold, hadd⟩ := bind_eq_ok_iff.1 hadd
  obtain ⟨sum, hsum, hadd⟩ := bind_eq_ok_iff.1 hadd
  cases hadd
  obtain ⟨w, rfl⟩ := hsystem.get hold
  cases hsum
  exact ⟨_, get_insert_of_same hsame (check_of_get hold) _, Double.isFinite_add_nan w⟩

end WeightMap

namespace Weights

open Csv

variable {path : String} {intIds : Bool}

/-! ## Rows -/

/-- What a row adds, if its cells can be read. -/
theorem addRows_cons_eq_ok {row : Nat} {m m' : WeightMap Value Operand} {r : Value × Value}
    {rest : List (Value × Value)} (h : addRows path intIds row m (r :: rest) = .ok m') :
    ∃ id w m₁, idOf path intIds row r.1 = .ok id ∧ weightOf r.2 = .ok w ∧
      m.add id (.real w) = .ok m₁ ∧ addRows path intIds (row + 1) m₁ rest = .ok m' := by
  obtain ⟨id, hid, h⟩ := bind_eq_ok_iff.1 h
  obtain ⟨w, hw, h⟩ := bind_eq_ok_iff.1 h
  obtain ⟨m₁, hm₁, h⟩ := bind_eq_ok_iff.1 h
  refine ⟨id, w, m₁, hid, hw, ?_, h⟩
  cases hadd : m.add id (.real w) with
  | error f =>
    rw [hadd] at hm₁
    cases hm₁
  | ok m₂ =>
    rw [hadd] at hm₁
    cases hm₁
    rfl

/-- An id that has been read is the same key as itself. -/
theorem same_of_idOf {row : Nat} {cell id : Value} (h : idOf path intIds row cell = .ok id) :
    Key.same id id = true := by
  have hself : ∀ id : Value, IsTextOrWhole id → Key.same id id = true := fun id hid =>
    (same_iff_eq hid hid).2 rfl
  unfold idOf at h
  split at h
  · cases h
  · rename_i name _
    cases hread : Token.readName intIds name with
    | error e =>
      rw [hread] at h
      cases e <;> cases h
    | ok id' =>
      rw [hread] at h
      obtain rfl : id' = id := Except.ok.inj h
      unfold Token.readName at hread
      split at hread
      · split at hread
        · cases hread
          exact hself _ trivial
        · cases hread
      · cases hread
        exact hself _ trivial

theorem ne_null_of_addRows {rows : List (Value × Value)} {row : Nat}
    {m m' : WeightMap Value Operand} (h : addRows path intIds row m rows = .ok m') :
    ∀ r ∈ rows, r.1 ≠ .null := by
  induction rows generalizing row m with
  | nil => exact nofun
  | cons r rest ih =>
    obtain ⟨id, w, m₁, hid, -, -, hrest⟩ := addRows_cons_eq_ok h
    refine List.forall_mem_cons.2 ⟨fun hnull => ?_, ih hrest⟩
    rw [hnull] at hid
    cases hid

theorem spoilt_addRows {rows : List (Value × Value)} {row : Nat} {m m' : WeightMap Value Operand}
    {id : Value} (hm : m.Spoilt id) (h : addRows path intIds row m rows = .ok m') :
    m'.Spoilt id := by
  induction rows generalizing row m with
  | nil =>
    cases h
    exact hm
  | cons r rest ih =>
    obtain ⟨id, w, m₁, -, -, hadd, hrest⟩ := addRows_cons_eq_ok h
    exact ih (hm.add hadd) hrest

/-- **A row without a weight** spoils some weight. -/
theorem exists_spoilt_of_addRows {rows : List (Value × Value)} {row : Nat}
    {m m' : WeightMap Value Operand} (hm : m.InSystem)
    (h : addRows path intIds row m rows = .ok m') {r : Value × Value} (hr : r ∈ rows)
    (hnull : r.2 = .null) : ∃ id, m'.Spoilt id := by
  induction rows generalizing row m with
  | nil => exact absurd hr List.not_mem_nil
  | cons first rest ih =>
    obtain ⟨id, w, m₁, hid, hw, hadd, hrest⟩ := addRows_cons_eq_ok h
    rcases List.mem_cons.1 hr with rfl | hr
    · rw [hnull] at hw
      cases hw
      exact ⟨id, spoilt_addRows (WeightMap.spoilt_of_add_nan hm (same_of_idOf hid) hadd) hrest⟩
    · exact ih (hm.add hadd) hrest hr

/-! ## Lost ids -/

theorem missingTexts_whole : ∀ s ∈ missingTexts, Whole s := by
  decide +kernel

/-- The first piece of a name is not blank. -/
theorem firstPiece_of_isName {name : String} (h : IsName name) :
    (firstPiece name).all isMarginal = false := by
  obtain ⟨c, cs, hcs, hblank⟩ := h
  have hne : ∀ d, Text.isBlank d = true → c ≠ d := by
    rintro d hd rfl
    rw [hd] at hblank
    cases hblank
  have hreturn : c ≠ lineReturn := hne _ (by decide +kernel)
  have hmarginal : isMarginal c = false := by
    simp only [isMarginal, Bool.or_eq_false_iff, decide_eq_false_iff_not]
    exact ⟨hne _ (by decide +kernel), hne _ (by decide +kernel)⟩
  rw [firstPiece, hcs, List.takeWhile_cons, if_pos (decide_eq_true hreturn), List.all_cons,
    hmarginal, Bool.false_and]

/-- **A lost id keeps the model from coming back**: the file cannot be loaded, or a weight of what is
loaded is not finite. -/
theorem exists_spoilt_of_lost {m : WeightMap Value Float} (hm : Writable intIds m) {id : Value}
    (hid : id ∈ m.keys) (hlost : ¬ ComesBack id) {loaded : WeightMap Value Operand}
    (h : ofText path intIds (written (m.entries.map fun e => (e.1, .float e.2))) = .ok loaded) :
    ∃ id', loaded.Spoilt id' := by
  rw [ofText_written hm] at h
  obtain ⟨e, he, rfl⟩ := List.mem_map.1 hid
  have hrow : (cellText e.1, Number.showFloat e.2) ∈ rowsOf m := List.mem_map_of_mem he
  have hrecord : ∀ cells ∈ rowRecords (cellText e.1) (Number.showFloat e.2),
      rowOf cells ∈ (recordsOf (rowsOf m)).map rowOf := fun cells hcells =>
    List.mem_map_of_mem (List.mem_flatMap.2 ⟨_, hrow, hcells⟩)
  cases hmissing : Csv.isMissing (cellText e.1) with
  | true =>
    -- the cell of the id is read as missing
    have hwhole := missingTexts_whole _ (List.contains_iff_mem.1 hmissing)
    rw [rowRecords_of_whole hwhole] at hrecord
    refine absurd ?_ (ne_null_of_addRows h _ (hrecord _ (List.mem_singleton_self _)))
    exact if_pos hmissing
  | false =>
    have hbroken : ¬ Whole (cellText e.1) := fun hwhole => hlost ⟨hmissing, hwhole⟩
    rcases (hm.ids e.1 hid).cases with ⟨name, hname, -, hid⟩ | ⟨n, -, -, hid⟩
    · -- the first piece of the name is a row without a weight
      rw [hid] at hbroken hrecord
      have hpiece := piece_mem_rowRecords hbroken (firstPiece_of_isName hname)
        (Number.showFloat e.2)
      exact exists_spoilt_of_addRows WeightMap.inSystem_empty h (hrecord _ hpiece) rfl
    · exact absurd (hid ▸ comesBack_int n) hlost

end Weights
end PassiveAggressive
