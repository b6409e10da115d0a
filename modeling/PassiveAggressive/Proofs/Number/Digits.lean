import PassiveAggressive.Proofs.Number.Rendering

/-!
# Names made of digits, read as whole numbers

A name whose characters are all digit-like is offered to the reader of whole numbers.  Nothing
around or between such characters is skipped by the reader, because no digit-like character
is blank or an underscore.  So the reader refuses a name of this kind for one of two reasons:
one of its characters carries a digit value and is no decimal digit, or there are more of
them than are read (`exists_natural_eq_ok_iff`).
-/

namespace PassiveAggressive

/-! ## Digit-like characters -/

namespace Text

theorem decimalZeros_apart : ∀ z ∈ decimalZeros, ∀ r ∈ blankRanges,
    r.2 < z ∨ z + 10 ≤ r.1 := by
  decide

theorem otherDigitRanges_apart : ∀ d ∈ otherDigitRanges, ∀ r ∈ blankRanges,
    r.2 < d.1 ∨ d.2 < r.1 := by
  decide

/-- The run of digits that a decimal digit is in. -/
theorem exists_zero_of_decimalValue? {c : Char} {d : Nat} (h : decimalValue? c = some d) :
    d < 10 ∧ ∃ z ∈ decimalZeros, c.toNat = z + d := by
  unfold decimalValue? at h
  simp only at h
  split at h
  · split at h
    · rename_i hrange
      simp only [Bool.and_eq_true, decide_eq_true_eq] at hrange
      cases h
      exact ⟨by omega, 48, List.mem_cons_self, by omega⟩
    · cases h
  · obtain ⟨z, hfind, rfl⟩ := Option.map_eq_some_iff.1 h
    have hrange := List.find?_some hfind
    simp only [Bool.and_eq_true, decide_eq_true_eq] at hrange
    exact ⟨by omega, z, List.mem_of_find?_eq_some hfind, by omega⟩

/-- **A character with a digit value is not blank.** -/
theorem isBlank_of_isDigitLike {c : Char} (h : isDigitLike c = true) : isBlank c = false := by
  rw [← Bool.not_eq_true]
  intro hblank
  obtain ⟨r, hr, hlow, hhigh⟩ := inRanges_iff.1 hblank
  rcases Bool.or_eq_true_iff.1 h with hdecimal | hother
  · obtain ⟨d, hd⟩ := Option.isSome_iff_exists.1 hdecimal
    obtain ⟨hten, z, hz, hcode⟩ := exists_zero_of_decimalValue? hd
    have hapart := decimalZeros_apart z hz r hr
    omega
  · obtain ⟨d, hd, hlow', hhigh'⟩ := inRanges_iff.1 hother
    have hapart := otherDigitRanges_apart d hd r hr
    omega

theorem ascii_lt_otherDigitRanges : ∀ d ∈ otherDigitRanges, 127 < d.1 := by
  decide

end Text

namespace Number

/-- What the reader makes of a digit-like character: an ASCII digit if it is a decimal digit, and
else no digit.  It is never an underscore. -/
theorem toAsciiDigit_facts {c : Char} (h : Text.isDigitLike c = true) :
    isAsciiDigit (Text.toAsciiDigit c) = Text.isDecimal c ∧ Text.toAsciiDigit c ≠ '_' := by
  unfold Text.toAsciiDigit Text.isDecimal
  cases hvalue : Text.decimalValue? c with
  | some d =>
    obtain ⟨hten, -⟩ := Text.exists_zero_of_decimalValue? hvalue
    obtain ⟨-, -, hunderscore, hdigit, -⟩ := asciiDigit_facts d hten
    exact ⟨hdigit, hunderscore⟩
  | none =>
    have hother : Text.inRanges Text.otherDigitRanges c.toNat = true := by
      simpa [Text.isDigitLike, Text.isDecimal, hvalue] using h
    obtain ⟨r, hr, hlow, -⟩ := Text.inRanges_iff.1 hother
    have hbeyond := Text.ascii_lt_otherDigitRanges r hr
    refine ⟨?_, ?_⟩
    · show (48 ≤ c.toNat && c.toNat ≤ 57) = false
      rw [Bool.and_eq_false_iff, decide_eq_false_iff_not, decide_eq_false_iff_not]
      omega
    · rintro rfl
      revert hlow
      show ¬ r.1 ≤ 95
      omega

/-! ## Reading -/

theorem takeDigits_snd_eq_nil_iff (cs : List Char) :
    (takeDigits cs).2 = [] ↔ ∀ c ∈ cs, isAsciiDigit c = true := by
  induction cs with
  | nil => simp [takeDigits]
  | cons c cs ih =>
    rw [takeDigits, List.forall_mem_cons]
    by_cases hc : (48 ≤ c.toNat && c.toNat ≤ 57) = true
    · rw [if_pos hc, ih]
      exact ⟨fun h => ⟨hc, h⟩, fun h => h.2⟩
    · rw [if_neg hc]
      exact ⟨fun h => absurd h (List.cons_ne_nil _ _), fun h => absurd h.1 hc⟩

theorem skips_nothing {cs : List Char} (h : ∀ c ∈ cs, Text.isDigitLike c = true) :
    Text.trimBy isNumeralBlank cs = cs ∧
      (cs.map Text.toAsciiDigit).filter (· ≠ '_') = cs.map Text.toAsciiDigit ∧
      withoutUnderscores? false (cs.map Text.toAsciiDigit) = some (cs.map Text.toAsciiDigit) := by
  have hunderscore : '_' ∉ cs.map Text.toAsciiDigit := by
    intro hmem
    obtain ⟨c, hc, hascii⟩ := List.mem_map.1 hmem
    exact (toAsciiDigit_facts (h c hc)).2 hascii
  refine ⟨Text.trimBy_eq_self fun c hc => ?_, List.filter_eq_self.2 fun c hc => ?_,
    withoutUnderscores?_of_notMem hunderscore false⟩
  · rw [isNumeralBlank, Text.isBlank_of_isDigitLike (h c hc), Bool.false_and]
  · exact decide_eq_true fun heq => hunderscore (heq ▸ hc)

/-- **A name of digit-like characters is read** as a whole number exactly if they are all decimal
digits and there are not too many of them. -/
theorem exists_natural_eq_ok_iff {s : String} (h : Text.isAllDigits s = true) :
    (∃ n, natural s = .ok n) ↔
      (∀ c ∈ s.toList, Text.isDecimal c = true) ∧ s.toList.length ≤ maxDigits := by
  obtain ⟨hne, hall⟩ := Bool.and_eq_true_iff.1 h
  have hlike := List.all_eq_true.1 hall
  have hdecimal : (takeDigits (s.toList.map Text.toAsciiDigit)).2 = [] ↔
      ∀ c ∈ s.toList, Text.isDecimal c = true := by
    rw [takeDigits_snd_eq_nil_iff, List.forall_mem_map]
    exact forall₂_congr fun c hc => by rw [(toAsciiDigit_facts (hlike c hc)).1]
  have hlength := length_takeDigits (s.toList.map Text.toAsciiDigit)
  rw [List.length_map] at hlength
  have hpos : 0 < s.toList.length := by
    rw [List.length_pos_iff, Ne, String.toList_eq_nil_iff, ← String.isEmpty_iff]
    simpa using hne
  obtain ⟨htrim, hbare, hnone⟩ := skips_nothing hlike
  unfold natural
  simp only [htrim, hbare, hnone]
  rw [← hdecimal]
  generalize takeDigits (s.toList.map Text.toAsciiDigit) = taken at hlength ⊢
  obtain ⟨ds, rest⟩ := taken
  simp only at hlength ⊢
  constructor
  · rintro ⟨n, hn⟩
    split at hn
    · cases hn
    · rename_i hshort
      split at hn
      · cases hn
      · rename_i ds' _ htaken
        cases htaken
        refine ⟨rfl, ?_⟩
        rw [← hlength, List.length_nil]
        omega
      · cases hn
  · rintro ⟨rfl, hshort⟩
    rw [List.length_nil] at hlength
    rw [if_neg (by omega)]
    cases ds with
    | nil =>
      rw [List.length_nil] at hlength
      omega
    | cons d ds => exact ⟨_, rfl⟩

end Number
end PassiveAggressive
