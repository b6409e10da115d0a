import PassiveAggressive.Proofs.Weights.Scoring
import PassiveAggressive.Scalar

/-!
# Scalars that are numbers of the system

A session starts with numbers of the underlying system and meets scalars of any kind in
the examples.  What keeps the two apart is that an operation that a number of the system
is in comes to a number of the system or not to anything: it has a result exactly if
the other operand has a counterpart in the system (`add_eq_ok_iff`, `sub_eq_ok_iff`,
`mul_eq_ok_iff`).  So a scalar that has got through one operation gets through all,
except where division by zero and the root of a negative number fault.

`LawfulNumberSystem` is what this asks of the system: a number greater than zero is not
zero, and the two signs have their numbers.
-/

namespace PassiveAggressive

/-- What the scalars rely on in the underlying system. -/
class LawfulNumberSystem (F : Type) [NumberSystem F] : Prop where
  isZero_of_lt : ∀ {x : F}, NumberSystem.lt NumberSystem.zero x = true →
    NumberSystem.isZero x = false
  exists_sign : ∀ above : Bool, ∃ x : F, NumberSystem.ofInt? (if above then 1 else -1) = some x

namespace Scalar

variable {F : Type}

/-- The scalar is a number of the underlying system. -/
def IsReal (a : Scalar F) : Prop := ∃ x, a = .real x

theorem isReal_real (x : F) : IsReal (.real x) := ⟨x, rfl⟩

variable [NumberSystem F]

@[simp] theorem toReal_real (x : F) : (real x).toReal = .ok x := rfl

theorem isReal_zero : (Arithmetic.zero : Scalar F).IsReal := ⟨_, rfl⟩

/-! ## Operations with a number of the system -/

theorem combine_of_real (f : Int → Int → Int) (g : F → F → F) {m n : Numeric F}
    (h : (∃ x, m = .real x) ∨ ∃ y, n = .real y) :
    Numeric.combine f g m n =
      (m.toReal >>= fun x => n.toReal >>= fun y => .ok (.real (g x y))) := by
  rcases h with ⟨x, rfl⟩ | ⟨y, rfl⟩
  · cases n <;> rfl
  · cases m <;> rfl

/-- **An operation that a number of the system is in** has a result if both operands have
counterparts in the system, and then the result is computed there. -/
theorem binary_eq_ok_iff (f : Int → Int → Int) (g : F → F → F)
    {onKinds : Kind → Kind → Except Fault (Scalar F)}
    (hkinds : ∀ l r c, l = .float ∨ r = .float → onKinds l r ≠ .ok c) {a b c : Scalar F}
    (hab : a.IsReal ∨ b.IsReal) :
    binary (Numeric.combine f g) onKinds a b = .ok c ↔
      ∃ x y, a.toReal = .ok x ∧ b.toReal = .ok y ∧ c = .real (g x y) := by
  have hkind : a.kind = .float ∨ b.kind = .float := by
    rcases hab with ⟨x, rfl⟩ | ⟨y, rfl⟩
    · exact .inl rfl
    · exact .inr rfl
  unfold binary toReal
  cases ha : a.numeric? with
  | none => simp [hkinds _ _ c hkind]
  | some m =>
    cases hb : b.numeric? with
    | none => simp [hkinds _ _ c hkind]
    | some n =>
      have hmn : (∃ x, m = .real x) ∨ ∃ y, n = .real y := by
        rcases hab with ⟨x, rfl⟩ | ⟨y, rfl⟩
        · exact .inl ⟨x, (Option.some.inj ha).symm⟩
        · exact .inr ⟨y, (Option.some.inj hb).symm⟩
      simp only [combine_of_real f g hmn]
      cases m.toReal with
      | error e => simp
      | ok x => cases n.toReal <;> simp [eq_comm]

variable {a b c : Scalar F}

theorem add_eq_ok_iff (hab : a.IsReal ∨ b.IsReal) :
    Arithmetic.add a b = .ok c ↔
      ∃ x y, a.toReal = .ok x ∧ b.toReal = .ok y ∧ c = .real (NumberSystem.add x y) := by
  refine binary_eq_ok_iff _ _ (fun l r c h => ?_) hab
  unfold addForeign
  rcases h with rfl | rfl
  · simp [Kind.sequence?]
  · cases l.sequence? <;> simp [Kind.sequence?]

theorem sub_eq_ok_iff (hab : a.IsReal ∨ b.IsReal) :
    Arithmetic.sub a b = .ok c ↔
      ∃ x y, a.toReal = .ok x ∧ b.toReal = .ok y ∧ c = .real (NumberSystem.sub x y) :=
  binary_eq_ok_iff _ _ (fun _ _ _ _ => by simp) hab

theorem mul_eq_ok_iff (hab : a.IsReal ∨ b.IsReal) :
    Arithmetic.mul a b = .ok c ↔
      ∃ x y, a.toReal = .ok x ∧ b.toReal = .ok y ∧ c = .real (NumberSystem.mul x y) := by
  refine binary_eq_ok_iff _ _ (fun l r c h => ?_) hab
  unfold mulForeign
  rcases h with rfl | rfl
  · cases r.sequence? <;> simp [Kind.sequence?]
  · cases l.sequence? <;> simp [Kind.sequence?]

@[simp] theorem add_real (x y : F) :
    Arithmetic.add (real x) (real y) = .ok (real (NumberSystem.add x y)) := rfl

@[simp] theorem sub_real (x y : F) :
    Arithmetic.sub (real x) (real y) = .ok (real (NumberSystem.sub x y)) := rfl

@[simp] theorem mul_real (x y : F) :
    Arithmetic.mul (real x) (real y) = .ok (real (NumberSystem.mul x y)) := rfl

@[simp] theorem abs_real (x : F) :
    Arithmetic.abs (real x) = .ok (real (NumberSystem.abs x)) := rfl

@[simp] theorem lt_real (x y : F) :
    Arithmetic.lt (real x) (real y) = .ok (NumberSystem.lt x y) := rfl

@[simp] theorem isPositive_real (x : F) :
    Arithmetic.isPositive (real x) = .ok (NumberSystem.lt NumberSystem.zero x) := rfl

@[simp] theorem isFinite_real (x : F) :
    Arithmetic.isFinite (real x) = .ok (NumberSystem.isFinite x) := rfl

@[simp] theorem isZero_real (x : F) :
    Arithmetic.isZero (real x) = NumberSystem.isZero x := rfl

theorem div_real (x : F) {y : F} (hy : NumberSystem.isZero y = false) :
    Arithmetic.div (real x) (real y) = .ok (real (NumberSystem.div x y)) := by
  change (NumberSystem.divide x y >>= fun q => .ok (real q)) = _
  rw [NumberSystem.divide, hy, if_neg Bool.false_ne_true, ok_bind]

/-- A number of the system is divided by a whole number in the system. -/
theorem div_int (x : F) (n : Int) :
    Arithmetic.div (real x) (.int n) =
      match NumberSystem.ofInt? n with
      | some y =>
        if NumberSystem.isZero y then .error .divisionByZero
        else .ok (real (NumberSystem.div x y))
      | none => .error .tooLarge := by
  change ((Numeric.whole n : Numeric F).toReal >>= fun y => NumberSystem.divide x y >>= fun q =>
    .ok (real q)) = _
  cases h : (NumberSystem.ofInt? n : Option F) with
  | none => simp only [Numeric.toReal, h, error_bind]
  | some y =>
    simp only [Numeric.toReal, h, ok_bind, NumberSystem.divide]
    split <;> rfl

theorem sqrt_real (x : F) :
    Arithmetic.sqrt (real x) =
      if NumberSystem.lt x NumberSystem.zero then .error .negativeRoot
      else .ok (real (NumberSystem.sqrt x)) := by
  change (NumberSystem.root x >>= fun r => .ok (real r)) = _
  unfold NumberSystem.root
  split <;> rfl

end Scalar
end PassiveAggressive
