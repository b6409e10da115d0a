import PassiveAggressive.Text.Blank

/-!
# Cutting texts

`splitOn` cuts a text at every occurrence of a separator, from the left and without
overlap; the pieces, joined with the separator, give the text back
(`join_splitOn`).  A separator has at least one character, which the type says: it
is a first character and the rest.

`cutAt?` cuts once, at the first occurrence of one character.
-/

namespace PassiveAggressive
namespace Text

/-- What follows `pre` at the front of a text, if the text begins with it. -/
def afterStart? : List Char → List Char → Option (List Char)
  | [], cs => some cs
  | _ :: _, [] => none
  | p :: pre, c :: cs => if p = c then afterStart? pre cs else none

theorem eq_of_afterStart? {pre cs rest : List Char} (h : afterStart? pre cs = some rest) :
    cs = pre ++ rest := by
  induction pre generalizing cs with
  | nil => simpa [afterStart?] using h
  | cons p pre ih =>
    cases cs with
    | nil => simp [afterStart?] at h
    | cons c cs =>
      simp only [afterStart?] at h
      split at h
      · rename_i hp
        simp [hp, ih h]
      · simp at h

/-- The pieces of `cs` between the occurrences of the separator `p :: pre`, the characters of
`piece`, in reverse, being the beginning of the first piece. -/
def splitFrom (p : Char) (pre : List Char) (piece cs : List Char) : List (List Char) :=
  match h : afterStart? (p :: pre) cs with
  | some rest =>
    have : rest.length < cs.length := by
      simp only [eq_of_afterStart? h, List.length_append, List.length_cons]
      omega
    piece.reverse :: splitFrom p pre [] rest
  | none =>
    match cs with
    | [] => [piece.reverse]
    | c :: cs => splitFrom p pre (c :: piece) cs
termination_by cs.length

/-- The pieces between the occurrences of the separator `p :: pre`. -/
def splitOn (p : Char) (pre cs : List Char) : List (List Char) := splitFrom p pre [] cs

/-- The pieces with the separator between each two of them. -/
def join (sep : List Char) : List (List Char) → List Char
  | [] => []
  | [x] => x
  | x :: y :: r => x ++ sep ++ join sep (y :: r)

theorem splitFrom_ne_nil (p : Char) (pre piece cs : List Char) :
    splitFrom p pre piece cs ≠ [] := by
  fun_induction splitFrom p pre piece cs <;> simp_all

theorem join_cons {sep x : List Char} {r : List (List Char)} (h : r ≠ []) :
    join sep (x :: r) = x ++ sep ++ join sep r := by
  cases r with
  | nil => exact absurd rfl h
  | cons y r => rfl

theorem join_splitFrom (p : Char) (pre piece cs : List Char) :
    join (p :: pre) (splitFrom p pre piece cs) = piece.reverse ++ cs := by
  fun_induction splitFrom p pre piece cs with
  | case1 piece cs rest h _ ih =>
    rw [join_cons (splitFrom_ne_nil _ _ _ _), ih, eq_of_afterStart? h]
    simp
  | case2 => simp [join]
  | case3 piece c cs _ ih => simp [ih]

/-- Cutting loses nothing: the pieces, joined with the separator, give the text back. -/
theorem join_splitOn (p : Char) (pre cs : List Char) :
    join (p :: pre) (splitOn p pre cs) = cs := by
  simp [splitOn, join_splitFrom]

/-- The two parts of a text around the first occurrence of `mark`. -/
def cutAt? (mark : Char) : List Char → Option (List Char × List Char)
  | [] => none
  | c :: cs =>
    if c = mark then some ([], cs)
    else (cutAt? mark cs).map fun parts => (c :: parts.1, parts.2)

/-- The cut is at the first occurrence: the mark is not in the part before it. -/
theorem cutAt?_eq_some {mark : Char} {cs a b : List Char} (h : cutAt? mark cs = some (a, b)) :
    cs = a ++ mark :: b ∧ mark ∉ a := by
  induction cs generalizing a b with
  | nil => simp [cutAt?] at h
  | cons c cs ih =>
    simp only [cutAt?] at h
    split at h
    · rename_i hc
      simp only [Option.some.injEq, Prod.mk.injEq] at h
      simp [← h.1, ← h.2, hc]
    · rename_i hc
      obtain ⟨⟨a', b'⟩, hcut, heq⟩ := Option.map_eq_some_iff.1 h
      simp only [Prod.mk.injEq] at heq
      obtain ⟨h1, h2⟩ := ih hcut
      rw [← heq.1, ← heq.2, h1]
      simpa [h2] using fun h' => hc h'.symm

theorem cutAt?_eq_none_iff {mark : Char} {cs : List Char} :
    cutAt? mark cs = none ↔ mark ∉ cs := by
  induction cs with
  | nil => simp [cutAt?]
  | cons c cs ih =>
    simp only [cutAt?]
    split
    · rename_i hc; simp [hc]
    · rename_i hc; simp [ih]; exact fun h => fun h' => hc h'.symm

/-- The texts with a separator between each two of them. -/
def joinWith (sep : String) : List String → String
  | [] => ""
  | [x] => x
  | x :: y :: r => x ++ sep ++ joinWith sep (y :: r)

/-- The text filled up on the left with `fill` to at least `width` characters. -/
def padLeft (width : Nat) (fill : Char) (cs : List Char) : List Char :=
  List.replicate (width - cs.length) fill ++ cs

/-- ASCII letters in lower case; every other character stays. -/
def lower (s : String) : String := String.ofList (s.toList.map Char.toLower)

end Text
end PassiveAggressive
