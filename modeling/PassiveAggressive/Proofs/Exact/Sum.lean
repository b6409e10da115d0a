import Mathlib.Algebra.BigOperators.Group.List.Basic
import Mathlib.Algebra.Order.Field.Basic
import Mathlib.Tactic.Abel
import PassiveAggressive.Proofs.Exact.Number
import PassiveAggressive.Weights.Average

/-!
# Sums of exact numbers

Weights are averaged in one of two ways, which add them up in different orders.  On exact numbers
the order does not matter: they are a commutative monoid under addition, the infinities included,
so eight sums side by side and a balanced tree come to the sum of the list (`laneSum_eq_sum`,
`treeSum_eq_sum`).  And there is no rounding error to carry along (`carriedSum_finite`).  So both
ways come to the same mean (`togetherMean_finite`, `carriedMean_finite`).
-/

namespace PassiveAggressive
namespace Exact

variable {K : Type} [Field K]

instance : Add (Exact K) := ⟨add⟩

instance : Zero (Exact K) := ⟨finite 0⟩

theorem finite_add (x y : K) : finite (x + y) = finite x + finite y := rfl

protected theorem zero_add (x : Exact K) : 0 + x = x := by
  cases x with
  | finite x => exact congrArg finite (zero_add x)
  | infinite s => rfl
  | nan => rfl

protected theorem add_nan (x : Exact K) : x + nan = nan := by
  cases x <;> rfl

protected theorem nan_add (x : Exact K) : nan + x = nan := by
  cases x <;> rfl

protected theorem add_assoc (x y z : Exact K) : x + y + z = x + (y + z) := by
  cases x with
  | nan => rw [Exact.nan_add, Exact.nan_add, Exact.nan_add]
  | finite a =>
    cases y with
    | nan => rw [Exact.add_nan, Exact.nan_add, Exact.add_nan]
    | finite b =>
      cases z with
      | finite c => exact congrArg finite (add_assoc a b c)
      | infinite s => rfl
      | nan => rfl
    | infinite s =>
      cases z with
      | finite c => rfl
      | infinite t => cases s <;> cases t <;> rfl
      | nan => rfl
  | infinite s =>
    cases y with
    | nan => rw [Exact.add_nan, Exact.nan_add, Exact.add_nan]
    | finite b =>
      cases z with
      | finite c => rfl
      | infinite t => cases s <;> cases t <;> rfl
      | nan => rfl
    | infinite t =>
      cases z with
      | finite c => cases s <;> cases t <;> rfl
      | infinite u => cases s <;> cases t <;> cases u <;> rfl
      | nan => cases s <;> cases t <;> rfl

/-- **Exact numbers are added up in any order.** -/
instance : AddCommMonoid (Exact K) where
  add_assoc := Exact.add_assoc
  zero_add := Exact.zero_add
  add_zero x := (Exact.add_comm x 0).trans (Exact.zero_add x)
  add_comm := Exact.add_comm
  nsmul := nsmulRec

theorem sum_map_finite (xs : List K) : (xs.map finite).sum = finite xs.sum := by
  induction xs with
  | nil => rfl
  | cons x xs ih => rw [List.map_cons, List.sum_cons, List.sum_cons, ih, finite_add]

end Exact

namespace Weights

variable {K : Type} [Field K] [LinearOrder K] [SquareRoot K]

theorem add_eq_add (x y : Exact K) : NumberSystem.add x y = x + y := rfl

/-! ## Sums in several orders -/

theorem foldl_add (xs : List (Exact K)) (x : Exact K) :
    xs.foldl NumberSystem.add x = x + xs.sum := by
  induction xs generalizing x with
  | nil => exact (add_zero x).symm
  | cons y xs ih => rw [List.foldl_cons, ih, List.sum_cons, add_eq_add, add_assoc]

theorem leftSum_eq_sum (xs : List (Exact K)) : leftSum xs = xs.sum := by
  cases xs with
  | nil => rfl
  | cons x xs => exact foldl_add xs x

theorem sum_addLanes {lanes terms : List (Exact K)} (h : lanes.length = terms.length) :
    (addLanes lanes terms).sum = lanes.sum + terms.sum := by
  unfold addLanes
  induction lanes generalizing terms with
  | nil =>
    rw [List.length_eq_zero_iff.1 h.symm]
    exact (add_zero _).symm
  | cons x lanes ih =>
    cases terms with
    | nil => cases h
    | cons y terms =>
      rw [List.zipWith_cons_cons, List.sum_cons, ih (Nat.succ.inj h), List.sum_cons, List.sum_cons,
        add_eq_add, add_add_add_comm]

/-- Rows of equal length are added up lane by lane. -/
theorem foldl_addLanes {rows : List (List (Exact K))} {row : List (Exact K)} {n : Nat}
    (hrow : row.length = n) (hrows : ∀ r ∈ rows, r.length = n) :
    (rows.foldl addLanes row).length = n ∧
      (rows.foldl addLanes row).sum = row.sum + rows.flatten.sum := by
  induction rows generalizing row with
  | nil => exact ⟨hrow, (add_zero _).symm⟩
  | cons r rows ih =>
    obtain ⟨hr, hrows⟩ := List.forall_mem_cons.1 hrows
    have hlength : (addLanes row r).length = n := by
      rw [addLanes, List.length_zipWith, hrow, hr, Nat.min_self]
    obtain ⟨hlen, hsum⟩ := ih hlength hrows
    refine ⟨hlen, ?_⟩
    rw [List.foldl_cons, hsum, sum_addLanes (hrow.trans hr.symm), List.flatten_cons,
      List.sum_append, add_assoc]

/-- The rows are of eight terms each, and nothing is lost. -/
theorem lanesOf_spec {α : Type} {n : Nat} {xs : List α} (h : 8 * n ≤ xs.length) :
    (∀ row ∈ (lanesOf n xs).1, row.length = 8) ∧
      (lanesOf n xs).1.flatten ++ (lanesOf n xs).2 = xs := by
  induction n generalizing xs with
  | zero => exact ⟨nofun, rfl⟩
  | succ n ih =>
    have hdrop : 8 * n ≤ (xs.drop 8).length := by
      rw [List.length_drop]
      omega
    obtain ⟨hrows, hall⟩ := ih hdrop
    rw [lanesOf]
    refine ⟨List.forall_mem_cons.2 ⟨?_, hrows⟩, ?_⟩
    · rw [List.length_take]
      omega
    · rw [List.flatten_cons, List.append_assoc, hall, List.take_append_drop]

theorem pairUp_eq_sum {xs : List (Exact K)} (h : xs.length = 8) : pairUp xs = xs.sum := by
  obtain ⟨a, b, c, d, e, f, g, i, rfl⟩ : ∃ a b c d e f g i, xs = [a, b, c, d, e, f, g, i] := by
    match xs, h with
    | [a, b, c, d, e, f, g, i], _ => exact ⟨a, b, c, d, e, f, g, i, rfl⟩
  simp only [pairUp, add_eq_add, List.sum_cons, List.sum_nil, add_zero]
  abel

theorem laneSum_eq_sum (xs : List (Exact K)) : laneSum xs = xs.sum := by
  obtain ⟨hrows, hall⟩ := lanesOf_spec (Nat.mul_div_le xs.length 8)
  unfold laneSum
  generalize lanesOf (xs.length / 8) xs = lanes at hrows hall ⊢
  obtain ⟨rows, rest⟩ := lanes
  cases rows with
  | nil =>
    rw [← hall]
    exact leftSum_eq_sum rest
  | cons row rows =>
    obtain ⟨hrow, hrows⟩ := List.forall_mem_cons.1 hrows
    obtain ⟨hlength, hsum⟩ := foldl_addLanes hrow hrows
    have hlanes : rest.foldl NumberSystem.add (pairUp (rows.foldl addLanes row)) =
        row.sum + rows.flatten.sum + rest.sum := by
      rw [foldl_add, pairUp_eq_sum hlength, hsum]
    rw [← hall, List.flatten_cons, List.sum_append, List.sum_append]
    exact hlanes

/-- **A balanced tree of additions** comes to the sum. -/
theorem treeSum_eq_sum (xs : List (Exact K)) : treeSum xs = xs.sum := by
  fun_induction treeSum xs with
  | case1 xs _ => exact leftSum_eq_sum xs
  | case2 xs _ _ => exact laneSum_eq_sum xs
  | case3 xs _ _ half ihfront ihback =>
    rw [ihfront, ihback, add_eq_add, ← List.sum_append, List.take_append_drop]

/-- **There is no rounding error to carry along.** -/
theorem carriedSum_finite (xs : List K) : carriedSum (xs.map Exact.finite) = .finite xs.sum := by
  have hadd : ∀ s x : K, Carried.add ⟨.finite s, .finite 0⟩ (.finite x) =
      (⟨.finite (s + x), .finite 0⟩ : Carried (Exact K)) := by
    intro s x
    have hterm : x + -0 = x := by rw [neg_zero, add_zero]
    have herror : s + x + -s + -x = 0 := by abel
    change Carried.mk (Exact.finite (s + (x + -0)))
      (Exact.finite (s + (x + -0) + -s + -(x + -0))) = _
    rw [hterm, herror]
  have hfold : ∀ s : K, ((xs.map Exact.finite).foldl Carried.add
      (⟨.finite s, .finite 0⟩ : Carried (Exact K))).sum = .finite (s + xs.sum) := by
    induction xs with
    | nil => exact fun s => congrArg Exact.finite (add_zero s).symm
    | cons x xs ih =>
      intro s
      rw [List.map_cons, List.foldl_cons, hadd, ih, List.sum_cons, add_assoc]
  exact (hfold 0).trans (congrArg Exact.finite (zero_add _))

/-! ## Means -/

theorem countOf_eq (n : Nat) : countOf n = Exact.finite (n : K) :=
  congrArg Exact.finite (Int.cast_natCast n)

/-- The mean of numbers. -/
def mean (xs : List K) : K := xs.sum / xs.length

/-- **Weights that stand together** have their mean. -/
theorem togetherMean_finite (xs : List K) :
    togetherMean (xs.map Exact.finite) = .finite (mean xs) := by
  cases xs with
  | nil => exact congrArg Exact.finite (by simp [mean])
  | cons x xs =>
    have htogether : togetherMean ((x :: xs).map Exact.finite) =
        NumberSystem.div (.finite (x :: xs).sum) (countOf (x :: xs).length) := by
      cases xs with
      | nil => simp [togetherMean]
      | cons y xs =>
        rw [List.map_cons, List.map_cons, togetherMean, ← List.map_cons, treeSum_eq_sum,
          Exact.sum_map_finite, List.length_map]
        · rfl
        · nofun
    rw [htogether, countOf_eq]
    rfl

/-- **Weights that are added up with the error carried along** have the same mean. -/
theorem carriedMean_finite (xs : List K) :
    carriedMean (xs.map Exact.finite) = .finite (mean xs) := by
  have hknown : (xs.map Exact.finite).filter (fun x => !isNoNumber x) = xs.map Exact.finite :=
    List.filter_eq_self.2 (List.forall_mem_map.2 fun _ _ => rfl)
  rw [carriedMean, hknown, carriedSum_finite, countOf_eq, List.length_map]
  rfl

end Weights
end PassiveAggressive
