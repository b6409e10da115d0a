import PassiveAggressive.Text.Ranges

/-!
# Blank characters

What separates words is decided by the character properties of the standard, not
by the seven blanks of ASCII alone: a no-break space or an ideographic space
around a name is as blank as a space.  `isBlank` is that property, and `strip`
removes every blank character at both ends of a text.

The four information separators (28 to 31) count as blank.
-/

namespace PassiveAggressive
namespace Text

/-- The blank characters, as ranges of code points in increasing order. -/
def blankRanges : List (Nat × Nat) :=
  [(9, 13), (28, 32), (133, 133), (160, 160), (5760, 5760), (8192, 8202), (8232, 8233),
    (8239, 8239), (8287, 8287), (12288, 12288)]

/-- A character that separates words. -/
def isBlank (c : Char) : Bool := inRanges blankRanges c.toNat

/-- The text without the characters at its two ends that satisfy `p`. -/
def trimBy (p : Char → Bool) (cs : List Char) : List Char :=
  ((cs.dropWhile p).reverse.dropWhile p).reverse

/-- The text without the blank characters at its two ends. -/
def stripChars (cs : List Char) : List Char := trimBy isBlank cs

@[inherit_doc stripChars]
def strip (s : String) : String := String.ofList (stripChars s.toList)

@[simp] theorem stripChars_nil : stripChars [] = [] := rfl

@[simp] theorem toList_strip (s : String) : (strip s).toList = stripChars s.toList := by
  simp [strip]

end Text
end PassiveAggressive
