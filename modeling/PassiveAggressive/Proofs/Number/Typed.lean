import Mathlib.Data.List.TakeWhile
import PassiveAggressive.Proofs.Number.Digits

/-!
# Numerals as they are typed

Of what a person types, only blanks at the two ends and underscores are skipped.  What is left of
a text that can be read consists of visible ASCII characters (`isInk_of_decimal?`), and two
things follow.

* The text of a number may be cut at its end wherever blanks begin (`float?_dropBlanks`).  This
  is less obvious than it looks, because the blanks that are taken off a token are not those that
  may stand around a numeral: an information separator is blank and no part of a numeral.
* What is a numeral in the cell of a table can be typed as well (`isSome_float?_of_cellFloat?`).
-/

namespace PassiveAggressive

/-! ## Trimmed ends -/

namespace Text

variable {p q : Char → Bool} {cs front back : List Char}

theorem exists_trimBy (p : Char → Bool) (cs : List Char) :
    ∃ front back, cs = front ++ trimBy p cs ++ back ∧ (∀ c ∈ front, p c = true) ∧
      ∀ c ∈ back, p c = true := by
  refine ⟨cs.takeWhile p, ((cs.dropWhile p).reverse.takeWhile p).reverse, ?_,
    fun c hc => List.mem_takeWhile_imp hc,
    fun c hc => List.mem_takeWhile_imp (List.mem_reverse.1 hc)⟩
  rw [List.append_assoc, trimBy, ← List.reverse_append, List.takeWhile_append_dropWhile,
    List.reverse_reverse, List.takeWhile_append_dropWhile]

theorem trimBy_append_left (hfront : ∀ c ∈ front, p c = true) :
    trimBy p (front ++ cs) = trimBy p cs := by
  rw [trimBy, trimBy, List.dropWhile_append_of_pos hfront]

theorem trimBy_append_right (hback : ∀ c ∈ back, p c = true) :
    trimBy p (cs ++ back) = trimBy p cs := by
  have hreverse : ∀ c ∈ back.reverse, p c = true := fun c hc => hback c (List.mem_reverse.1 hc)
  unfold trimBy
  rw [List.dropWhile_append]
  split
  · rename_i hall
    rw [List.isEmpty_iff.1 hall, List.dropWhile_eq_nil_iff.2 hback]
  · rw [List.reverse_append, List.dropWhile_append_of_pos hreverse]

/-- Trimming more than has been trimmed changes nothing if there is no more to trim. -/
theorem trimBy_eq_trimBy (hpq : ∀ c, p c = true → q c = true)
    (h : ∀ c ∈ trimBy p cs, q c = false) : trimBy q cs = trimBy p cs := by
  obtain ⟨front, back, hcs, hfront, hback⟩ := exists_trimBy p cs
  calc trimBy q cs = trimBy q (front ++ trimBy p cs ++ back) := by rw [← hcs]
    _ = trimBy q (front ++ trimBy p cs) := trimBy_append_right fun c hc => hpq c (hback c hc)
    _ = trimBy q (trimBy p cs) := trimBy_append_left fun c hc => hpq c (hfront c hc)
    _ = trimBy p cs := trimBy_eq_self h

end Text

namespace Number

/-! ## The characters of a numeral -/

/-- A visible ASCII character, and no underscore. -/
def IsInk (c : Char) : Prop := 33 ≤ c.toNat ∧ c.toNat ≤ 126 ∧ c ≠ '_'

theorem IsInk.isBlank {c : Char} (h : IsInk c) : Text.isBlank c = false := by
  rw [← Bool.not_eq_true]
  intro hblank
  obtain ⟨r, hr, hlow, hhigh⟩ := Text.inRanges_iff.1 hblank
  have hapart : ∀ r ∈ Text.blankRanges, r.2 < 33 ∨ 126 < r.1 := by decide
  have := hapart r hr
  obtain ⟨hfrom, hto, -⟩ := h
  omega

theorem IsInk.isNumeralBlank {c : Char} (h : IsInk c) : isNumeralBlank c = false := by
  rw [Number.isNumeralBlank, h.isBlank, Bool.false_and]

theorem toAsciiDigit_of_lt {c : Char} (h : c.toNat < 128) : Text.toAsciiDigit c = c := by
  unfold Text.toAsciiDigit Text.decimalValue?
  simp only [if_pos h]
  by_cases hdigit : (48 ≤ c.toNat && c.toNat ≤ 57) = true
  · rw [if_pos hdigit]
    simp only [Bool.and_eq_true, decide_eq_true_eq] at hdigit
    have hcode : 48 + (c.toNat - 48) = c.toNat := by omega
    simp only [Text.asciiDigit, hcode, Char.ofNat_toNat]
  · rw [if_neg hdigit]

theorem IsInk.toAsciiDigit {c : Char} (h : IsInk c) : Text.toAsciiDigit c = c :=
  toAsciiDigit_of_lt (by have := h.2.1; omega)

theorem isInk_of_isAsciiDigit {c : Char} (h : isAsciiDigit c = true) : IsInk c := by
  simp only [isAsciiDigit, Bool.and_eq_true, decide_eq_true_eq] at h
  refine ⟨by omega, by omega, ?_⟩
  rintro rfl
  revert h
  decide

theorem isInk_signs : ∀ c ∈ ['+', '-', '.', 'e', 'E'], IsInk c := by
  rw [← List.forall_iff_forall_mem]
  simp only [List.Forall, IsInk]
  decide

theorem isInk_takeSign {cs : List Char} (h : ∀ c ∈ (takeSign cs).2, IsInk c) :
    ∀ c ∈ cs, IsInk c := by
  intro c hc
  by_cases hsign : c ≠ '-' ∧ c ≠ '+'
  · exact h c (mem_takeSign hc hsign)
  · refine isInk_signs c ?_
    rw [not_and_or, not_not, not_not] at hsign
    rcases hsign with rfl | rfl <;> decide

theorem isInk_takeDigits {cs : List Char} (h : ∀ c ∈ (takeDigits cs).2, IsInk c) :
    ∀ c ∈ cs, IsInk c := by
  induction cs with
  | nil => nofun
  | cons c cs ih =>
    rw [takeDigits] at h
    split at h
    · rename_i hdigit
      exact List.forall_mem_cons.2 ⟨isInk_of_isAsciiDigit hdigit, ih h⟩
    · exact h

theorem isInk_of_exponent? {cs : List Char} {e : Int} (h : exponent? cs = some e) :
    ∀ c ∈ cs, IsInk c := by
  unfold exponent? at h
  split at h
  · nofun
  · rename_i c cs
    split at h
    · rename_i hletter
      rw [Bool.or_eq_true, decide_eq_true_eq, decide_eq_true_eq] at hletter
      refine List.forall_mem_cons.2 ⟨?_, isInk_takeSign (isInk_takeDigits ?_)⟩
      · rcases hletter with rfl | rfl <;> exact isInk_signs _ (by decide)
      · -- the digits are all there is
        simp only at h
        split at h
        · cases h
        · rename_i hdigits
          rw [hdigits]
          nofun
        · cases h
    · cases h

theorem isInk_of_unsigned? {negative : Bool} {cs : List Char} {x : Float}
    (h : unsigned? negative cs = some x) : ∀ c ∈ cs, IsInk c := by
  unfold unsigned? at h
  simp only at h
  refine isInk_takeDigits ?_
  generalize (takeDigits cs).2 = rest at h ⊢
  split at h
  · -- decimals stand behind a point
    refine List.forall_mem_cons.2 ⟨isInk_signs '.' (by decide), isInk_takeDigits ?_⟩
    split at h
    · cases h
    · obtain ⟨e, he, -⟩ := Option.map_eq_some_iff.1 h
      exact isInk_of_exponent? he
  · split at h
    · cases h
    · obtain ⟨e, he, -⟩ := Option.map_eq_some_iff.1 h
      exact isInk_of_exponent? he

theorem isInk_of_isAlpha {c : Char} (h : c.isAlpha = true) : IsInk c := by
  simp only [Char.isAlpha, Char.isUpper, Char.isLower, Bool.or_eq_true, Bool.and_eq_true,
    decide_eq_true_eq, ge_iff_le, UInt32.le_iff_toNat_le] at h
  have hunderscore : c ≠ '_' := by
    rintro rfl
    revert h
    decide
  change (65 ≤ c.toNat ∧ c.toNat ≤ 90) ∨ 97 ≤ c.toNat ∧ c.toNat ≤ 122 at h
  exact ⟨by omega, by omega, hunderscore⟩

/-- The words among the numerals are written in letters. -/
theorem isInk_of_word? {negative : Bool} {cs : List Char} {x : Float}
    (h : word? negative cs = some x) : ∀ c ∈ cs, IsInk c := by
  have hletters : ∀ word : List Char, (∀ c ∈ word, c.isAlpha = true) →
      String.ofList (cs.map Char.toLower) = String.ofList word → ∀ c ∈ cs, IsInk c := by
    intro word hword heq c hc
    have hlower : cs.map Char.toLower = word := String.ofList_injective heq
    have halpha := hword _ (hlower ▸ List.mem_map_of_mem hc)
    rw [Char.isAlpha_toLower_eq_isAlpha] at halpha
    exact isInk_of_isAlpha halpha
  unfold word? at h
  split at h
  · exact hletters ['i', 'n', 'f'] (by simp) ‹_›
  · exact hletters ['i', 'n', 'f', 'i', 'n', 'i', 't', 'y'] (by simp) ‹_›
  · exact hletters ['n', 'a', 'n'] (by simp) ‹_›
  · cases h

/-- **A numeral consists of visible ASCII characters.** -/
theorem isInk_of_decimal? {cs : List Char} {x : Float} (h : decimal? cs = some x) :
    ∀ c ∈ cs, IsInk c := by
  unfold decimal? at h
  refine isInk_takeSign ?_
  generalize takeSign cs = signed at h ⊢
  obtain ⟨negative, cs⟩ := signed
  cases hunsigned : unsigned? negative cs with
  | some y => exact isInk_of_unsigned? hunsigned
  | none =>
    simp only [hunsigned] at h
    exact isInk_of_word? h

/-! ## Blanks around a numeral -/

theorem float?_congr {s s' : String}
    (h : Text.trimBy isNumeralBlank s.toList = Text.trimBy isNumeralBlank s'.toList) :
    float? s = float? s' := by
  rw [float?, float?, h]

/-- Every blank in the text of a number is one that may stand around a numeral. -/
theorem isNumeralBlank_of_float? {s : String} {x : Float} (h : float? s = some x) {c : Char}
    (hc : c ∈ s.toList) (hblank : Text.isBlank c = true) : isNumeralBlank c = true := by
  by_contra hnumeral
  have hkept := Text.mem_trimBy hc (Bool.eq_false_iff.2 hnumeral)
  -- an information separator, which no reader skips or changes
  have hcode : 28 ≤ c.toNat ∧ c.toNat ≤ 31 := by
    simpa [isNumeralBlank, hblank] using hnumeral
  obtain ⟨ds, hds, hdecimal⟩ := Option.bind_eq_some_iff.1 h
  have hmem : c ∈ ds := by
    rw [eq_of_withoutUnderscores? hds, List.mem_filter]
    refine ⟨List.mem_map.2 ⟨c, hkept, toAsciiDigit_of_lt (by omega)⟩, decide_eq_true ?_⟩
    rintro rfl
    revert hcode
    decide
  have hink := isInk_of_decimal? hdecimal c hmem
  rw [hink.isBlank] at hblank
  cases hblank

/-- **The text of a number may be cut** where the blanks at its end begin. -/
theorem float?_dropBlanks {s : String} {x : Float} (h : float? s = some x) {front back : List Char}
    (hs : s.toList = front ++ back) (hback : ∀ c ∈ back, Text.isBlank c = true) :
    float? (String.ofList front) = some x := by
  rw [← h]
  refine float?_congr ?_
  rw [String.toList_ofList, hs, Text.trimBy_append_right]
  intro c hc
  exact isNumeralBlank_of_float? h (hs ▸ List.mem_append_right _ hc) (hback c hc)

theorem isNumeralBlank_of_isCellBlank {c : Char} (h : isCellBlank c = true) :
    isNumeralBlank c = true := by
  have hcode : c.toNat = 32 ∨ 9 ≤ c.toNat ∧ c.toNat ≤ 13 := by simpa [isCellBlank] using h
  have hblank : Text.isBlank c = true := by
    refine Text.inRanges_iff.2 ?_
    rcases hcode with hspace | hrange
    · exact ⟨(28, 32), by decide, by dsimp only; omega, by dsimp only; omega⟩
    · exact ⟨(9, 13), by decide, hrange⟩
  rw [isNumeralBlank, hblank, Bool.true_and, Bool.not_eq_true', Bool.and_eq_false_iff,
    decide_eq_false_iff_not, decide_eq_false_iff_not]
  omega

/-- What consists of visible ASCII characters is read as it is. -/
theorem float?_of_isInk {s : String} {cs : List Char}
    (hcs : Text.trimBy isNumeralBlank s.toList = cs) (hink : ∀ c ∈ cs, IsInk c) :
    float? s = decimal? cs := by
  have hascii : cs.map Text.toAsciiDigit = cs :=
    (List.map_congr_left fun c hc => (hink c hc).toAsciiDigit).trans (List.map_id cs)
  have hnone : '_' ∉ cs := fun h => (hink _ h).2.2 rfl
  unfold float?
  simp only [hcs, hascii, withoutUnderscores?_of_notMem hnone, Option.bind_some]

/-- **The numeral of a table cell can be typed.** -/
theorem isSome_float?_of_cellFloat? {s : String} (h : (cellFloat? s).isSome = true) :
    (float? s).isSome = true := by
  obtain ⟨x, hx⟩ := Option.isSome_iff_exists.1 h
  unfold cellFloat? at hx
  simp only at hx
  split at hx
  · rename_i y hy
    have hink := isInk_takeSign (isInk_of_unsigned? hy)
    have htrim : Text.trimBy isNumeralBlank s.toList = Text.trimBy isCellBlank s.toList := by
      exact Text.trimBy_eq_trimBy (fun c => isNumeralBlank_of_isCellBlank)
        fun c hc => (hink c hc).isNumeralBlank
    rw [float?_of_isInk htrim hink, decimal?]
    simp only [hy]
    rfl
  · split at hx
    · rename_i y hy
      have hink := isInk_takeSign (isInk_of_word? hy)
      have htrim : Text.trimBy isNumeralBlank s.toList = s.toList :=
        Text.trimBy_eq_self fun c hc => (hink c hc).isNumeralBlank
      rw [float?_of_isInk htrim hink, decimal?]
      simp only [hy]
      cases unsigned? (takeSign s.toList).1 (takeSign s.toList).2 <;> rfl
    · cases hx

end Number
end PassiveAggressive
