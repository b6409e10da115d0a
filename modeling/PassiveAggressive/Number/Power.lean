/-!
# Powers of two and of ten

The two scales that numbers are read and written on.
-/

namespace PassiveAggressive
namespace Number

/-- Two to a power. -/
def twoTo (k : Nat) : Nat := Nat.pow 2 k

/-- Ten to a power. -/
def tenTo (k : Nat) : Nat := Nat.pow 10 k

theorem twoTo_zero : twoTo 0 = 1 := rfl

theorem twoTo_succ (k : Nat) : twoTo (k + 1) = twoTo k * 2 := rfl

theorem twoTo_pos (k : Nat) : 0 < twoTo k := by
  induction k with
  | zero => simp [twoTo_zero]
  | succ k ih => rw [twoTo_succ]; omega

theorem tenTo_zero : tenTo 0 = 1 := rfl

end Number
end PassiveAggressive
