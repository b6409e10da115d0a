import Mathlib.Data.List.TakeWhile
import PassiveAggressive.Number.Numeral
import PassiveAggressive.Number.Rendering
import PassiveAggressive.Proofs.Double.Parts

/-!
# Numbers as text, read back

What can be told of a number's text without knowing that it reads back.  The text of a
double consists of a few characters, and one of them is a point or the letter of an
exponent (`showFloat_chars`), so it is not taken for a whole number (`cellInt?_showFloat`).

The text of a whole number does read back, as long as it is not longer than numerals are
read (`natural_showNat`); and whatever is read as a whole number is within that length
(`lt_of_natural`).
-/

namespace PassiveAggressive

/-! ## Trimmed texts -/

namespace Text

variable {p : Char → Bool} {cs : List Char}

theorem trimBy_eq_self (h : ∀ c ∈ cs, p c = false) : trimBy p cs = cs := by
  have hdrop : ∀ ds : List Char, (∀ c ∈ ds, p c = false) → ds.dropWhile p = ds := by
    intro ds hds
    cases ds with
    | nil => rfl
    | cons c ds => rw [List.dropWhile_cons_of_neg (by simp [hds c List.mem_cons_self])]
  rw [trimBy, hdrop cs h, hdrop _ fun c hc => h c (List.mem_reverse.1 hc), List.reverse_reverse]

theorem mem_trimBy {c : Char} (hc : c ∈ cs) (h : p c = false) : c ∈ trimBy p cs := by
  have hdrop : ∀ ds : List Char, c ∈ ds → c ∈ ds.dropWhile p := by
    intro ds hds
    rw [← List.takeWhile_append_dropWhile (p := p) (l := ds), List.mem_append] at hds
    refine hds.resolve_left fun htake => ?_
    rw [List.mem_takeWhile_imp htake] at h
    cases h
  rw [trimBy, List.mem_reverse]
  exact hdrop _ (List.mem_reverse.2 (hdrop cs hc))

end Text

namespace Number

/-! ## Digits -/

theorem lt_ten_of_mem_digitsOf {n d : Nat} (h : d ∈ digitsOf n) : d < 10 := by
  fun_induction digitsOf n with
  | case1 => exact absurd h List.not_mem_nil
  | case2 n _ ih =>
    rcases List.mem_append.1 h with h | h
    · exact ih h
    · rw [List.mem_singleton.1 h]
      exact Nat.mod_lt _ (by omega)

/-- A number has at most so many digits if it is less than that power of ten. -/
theorem length_digitsOf_le {n k : Nat} (h : n < 10 ^ k) : (digitsOf n).length ≤ k := by
  fun_induction digitsOf n generalizing k with
  | case1 => exact Nat.zero_le _
  | case2 n hn ih =>
    cases k with
    | zero => omega
    | succ k =>
      rw [List.length_append, List.length_singleton]
      exact Nat.succ_le_succ (ih (by rw [Nat.pow_succ] at h; omega))

/-- The value of so many digits is less than that power of ten. -/
theorem valueOfDigits_lt {ds : List Nat} (h : ∀ d ∈ ds, d < 10) :
    Text.valueOfDigits ds < 10 ^ ds.length := by
  induction ds using List.reverseRecOn with
  | nil => exact Nat.one_pos
  | append_singleton ds d ih =>
    obtain ⟨hds, hd⟩ := List.forall_mem_append.1 h
    rw [Text.valueOfDigits_concat, List.length_append, List.length_singleton, Nat.pow_succ]
    have := ih hds
    have := hd d (List.mem_singleton_self d)
    omega

/-- The digits a whole number is written with. -/
def writtenDigits (n : Nat) : List Nat := if n = 0 then [0] else digitsOf n

theorem natChars_eq (n : Nat) : natChars n = (writtenDigits n).map Text.asciiDigit := by
  unfold natChars writtenDigits
  split <;> rfl

theorem lt_ten_of_mem_writtenDigits {n d : Nat} (h : d ∈ writtenDigits n) : d < 10 := by
  unfold writtenDigits at h
  split at h
  · rw [List.mem_singleton.1 h]
    decide
  · exact lt_ten_of_mem_digitsOf h

theorem writtenDigits_ne_nil (n : Nat) : writtenDigits n ≠ [] := by
  unfold writtenDigits
  split
  · exact List.cons_ne_nil _ _
  · rename_i hn
    rw [digitsOf, dif_neg hn]
    exact List.append_ne_nil_of_right_ne_nil _ (List.cons_ne_nil _ _)

theorem valueOfDigits_writtenDigits (n : Nat) : Text.valueOfDigits (writtenDigits n) = n := by
  unfold writtenDigits
  split
  · rename_i hn
    rw [hn]
    rfl
  · exact valueOfDigits_digitsOf n

theorem length_writtenDigits_le {n k : Nat} (hk : 0 < k) (h : n < 10 ^ k) :
    (writtenDigits n).length ≤ k := by
  unfold writtenDigits
  split
  · exact hk
  · exact length_digitsOf_le h

/-! ## Whole numbers read back -/

theorem asciiDigit_facts : ∀ d < 10, isNumeralBlank (Text.asciiDigit d) = false ∧
    Text.toAsciiDigit (Text.asciiDigit d) = Text.asciiDigit d ∧ Text.asciiDigit d ≠ '_' ∧
    isAsciiDigit (Text.asciiDigit d) = true ∧ (Text.asciiDigit d).toNat = 48 + d ∧
    Text.isDigitLike (Text.asciiDigit d) = true := by
  decide +kernel

theorem takeDigits_map {ds : List Nat} (h : ∀ d ∈ ds, d < 10) :
    takeDigits (ds.map Text.asciiDigit) = (ds, []) := by
  induction ds with
  | nil => rfl
  | cons d ds ih =>
    obtain ⟨hd, hds⟩ := List.forall_mem_cons.1 h
    obtain ⟨-, -, -, -, hcode, -⟩ := asciiDigit_facts d hd
    have hrange : (48 ≤ 48 + d && 48 + d ≤ 57) = true := by
      simp only [Bool.and_eq_true, decide_eq_true_eq]
      omega
    rw [List.map_cons, takeDigits, ih hds, hcode, if_pos hrange, Nat.add_sub_cancel_left]

theorem withoutUnderscores?_of_notMem {cs : List Char} (h : '_' ∉ cs) (before : Bool) :
    withoutUnderscores? before cs = some cs := by
  induction cs generalizing before with
  | nil => rfl
  | cons c cs ih =>
    rw [List.mem_cons, not_or] at h
    rw [withoutUnderscores?, ih h.2]
    · rfl
    · exact fun h' => h.1 h'.symm

theorem showInt_natCast (n : Nat) : showInt n = showNat n := by
  rw [showInt, if_neg (Int.not_lt.2 (Int.natCast_nonneg n)), Int.natAbs_natCast]

/-- **A whole number reads back** from its digits, if there are not too many of them. -/
theorem natural_showNat {n : Nat} (h : n < 10 ^ maxDigits) : natural (showNat n) = .ok n := by
  have hdigits : ∀ d ∈ writtenDigits n, d < 10 := fun d => lt_ten_of_mem_writtenDigits
  have hfacts : ∀ c ∈ (writtenDigits n).map Text.asciiDigit,
      isNumeralBlank c = false ∧ Text.toAsciiDigit c = c ∧ c ≠ '_' := by
    intro c hc
    obtain ⟨d, hd, rfl⟩ := List.mem_map.1 hc
    obtain ⟨hblank, hascii, hunderscore, -⟩ := asciiDigit_facts d (hdigits d hd)
    exact ⟨hblank, hascii, hunderscore⟩
  have htext : (Text.trimBy isNumeralBlank (showNat n).toList).map Text.toAsciiDigit =
      (writtenDigits n).map Text.asciiDigit := by
    rw [showNat, String.toList_ofList, natChars_eq,
      Text.trimBy_eq_self fun c hc => (hfacts c hc).1]
    exact (List.map_congr_left fun c hc => (hfacts c hc).2.1).trans (List.map_id _)
  have hbare : ((writtenDigits n).map Text.asciiDigit).filter (· ≠ '_') =
      (writtenDigits n).map Text.asciiDigit :=
    List.filter_eq_self.2 fun c hc => decide_eq_true (hfacts c hc).2.2
  have hshort : ¬ maxDigits < (writtenDigits n).length :=
    Nat.not_lt.2 (length_writtenDigits_le (by decide) h)
  have hnone : withoutUnderscores? false ((writtenDigits n).map Text.asciiDigit) =
      some ((writtenDigits n).map Text.asciiDigit) :=
    withoutUnderscores?_of_notMem (fun h => (hfacts _ h).2.2 rfl) false
  unfold natural
  simp only [htext, hbare, takeDigits_map hdigits, if_neg hshort, hnone]
  obtain ⟨d, ds, hcons⟩ := List.exists_cons_of_ne_nil (writtenDigits_ne_nil n)
  rw [hcons]
  exact congrArg Except.ok (hcons ▸ valueOfDigits_writtenDigits n)

theorem isAllDigits_showNat (n : Nat) : Text.isAllDigits (showNat n) = true := by
  have htext : (showNat n).toList = (writtenDigits n).map Text.asciiDigit := by
    rw [showNat, String.toList_ofList, natChars_eq]
  have hsome : (showNat n).isEmpty = false := by
    rw [← Bool.not_eq_true, String.isEmpty_iff, ← String.toList_eq_nil_iff, htext,
      List.map_eq_nil_iff]
    exact writtenDigits_ne_nil n
  rw [Text.isAllDigits, hsome, htext, List.all_map, Bool.not_false, Bool.true_and,
    List.all_eq_true]
  exact fun d hd => (asciiDigit_facts d (lt_ten_of_mem_writtenDigits hd)).2.2.2.2.2

theorem lt_ten_of_mem_takeDigits {cs : List Char} {d : Nat} (h : d ∈ (takeDigits cs).1) :
    d < 10 := by
  induction cs with
  | nil => exact absurd h List.not_mem_nil
  | cons c cs ih =>
    rw [takeDigits] at h
    split at h
    · rename_i hrange
      simp only [Bool.and_eq_true, decide_eq_true_eq] at hrange
      rcases List.mem_cons.1 h with rfl | h
      · omega
      · exact ih h
    · exact absurd h List.not_mem_nil

theorem eq_of_withoutUnderscores? {before : Bool} {cs ds : List Char}
    (h : withoutUnderscores? before cs = some ds) : ds = cs.filter (· ≠ '_') := by
  fun_induction withoutUnderscores? before cs generalizing ds with
  | case1 => simpa using h.symm
  | case2 before c cs hdigit ih => simpa using ih h
  | case3 => cases h
  | case4 => cases h
  | case5 before c cs hc ih =>
    obtain ⟨ds', hds', rfl⟩ := Option.map_eq_some_iff.1 h
    rw [List.filter_cons_of_pos (by simpa using hc), ih hds']

/-- What is read as a whole number is not longer than numerals are read. -/
theorem lt_of_natural {s : String} {n : Nat} (h : natural s = .ok n) : n < 10 ^ maxDigits := by
  unfold natural at h
  simp only at h
  split at h
  · cases h
  · rename_i hshort
    split at h
    · cases h
    · rename_i cs hcs
      split at h
      · cases h
      · rename_i ds _ hds
        cases h
        have hlength : ds.length ≤ maxDigits := by
          rw [← eq_of_withoutUnderscores? hcs, hds] at hshort
          exact Nat.not_lt.1 hshort
        have hten : ∀ d ∈ ds, d < 10 := by
          intro d hd
          have hmem : d ∈ (takeDigits cs).1 := by
            rw [hds]
            exact hd
          exact lt_ten_of_mem_takeDigits hmem
        exact (valueOfDigits_lt hten).trans_le (Nat.pow_le_pow_right (by decide) hlength)
      · cases h

/-! ## The text of a double -/

/-- The characters that the text of a finite double consists of. -/
def numeralChars : List Char :=
  ['0', '1', '2', '3', '4', '5', '6', '7', '8', '9', '.', 'e', '+', '-']

/-- The characters that no text of a whole number holds. -/
def pointChars : List Char := ['.', 'e']

theorem asciiDigit_mem_numeralChars : ∀ d < 10, Text.asciiDigit d ∈ numeralChars := by
  decide

/-- The digits of a decimal number are digits. -/
def Decimal.InDigits (d : Decimal) : Prop := ∀ n ∈ d.digits, n < 10

theorem inDigits_ofScaled (digits : Nat) (exponent : Int) :
    (Decimal.ofScaled digits exponent).InDigits := by
  intro n hn
  have hmem : n ∈ digitsOf digits := by
    have hdrop := (List.dropWhile_sublist _).subset (List.mem_reverse.1 hn)
    exact List.mem_reverse.1 hdrop
  exact lt_ten_of_mem_digitsOf hmem

theorem inDigits_shortestFrom (value : Ratio) (i : Neighbourhood) (top : Int) (more count : Nat) :
    (shortestFrom value i top more count).InDigits := by
  fun_induction shortestFrom value i top more count with
  | case1 => exact inDigits_ofScaled _ _
  | case2 => exact inDigits_ofScaled _ _
  | case3 _ _ _ ih => exact ih

theorem natChars_subset (n : Nat) : natChars n ⊆ numeralChars := by
  intro c hc
  rw [natChars_eq] at hc
  obtain ⟨d, hd, rfl⟩ := List.mem_map.1 hc
  exact asciiDigit_mem_numeralChars d (lt_ten_of_mem_writtenDigits hd)

theorem replicate_subset {c : Char} {cs : List Char} (h : c ∈ cs) (n : Nat) :
    List.replicate n c ⊆ cs := fun _ hc => List.eq_of_mem_replicate hc ▸ h

theorem exponentChars_subset (e : Int) : exponentChars e ⊆ numeralChars := by
  have hpad : Text.padLeft 2 '0' (natChars e.natAbs) ⊆ numeralChars :=
    List.append_subset.2 ⟨replicate_subset (by decide) _, natChars_subset _⟩
  have hsign : (if e < 0 then '-' else '+') ∈ numeralChars := by
    split <;> decide
  exact List.cons_subset.2 ⟨by decide, List.cons_subset.2 ⟨hsign, hpad⟩⟩

/-- A decimal number is written in these characters. -/
theorem write_subset {d : Decimal} (hd : d.InDigits) : Layout.exact.write d ⊆ numeralChars := by
  have hdigits : d.digits.map Text.asciiDigit ⊆ numeralChars := by
    intro c hc
    obtain ⟨n, hn, rfl⟩ := List.mem_map.1 hc
    exact asciiDigit_mem_numeralChars n (hd n hn)
  have hzeros : ∀ n, List.replicate n '0' ⊆ numeralChars := replicate_subset (by decide)
  have hzero : '0' ∈ numeralChars := by decide
  have hpoint : '.' ∈ numeralChars := by decide
  unfold Layout.write
  simp only
  split
  · -- positional notation
    split
    · exact List.append_subset.2
        ⟨List.cons_subset.2 ⟨hzero, List.cons_subset.2 ⟨hpoint, hzeros _⟩⟩, hdigits⟩
    · have hfront := List.append_subset.2
        ⟨List.Subset.trans (List.take_subset d.point.toNat _) hdigits,
          hzeros (d.point.toNat - (d.digits.map Text.asciiDigit).length)⟩
      split
      · exact List.append_subset.2 ⟨hfront, by decide⟩
      · exact List.append_subset.2
          ⟨hfront, List.cons_subset.2 ⟨hpoint, List.Subset.trans (List.drop_subset _ _) hdigits⟩⟩
  · -- notation with an exponent
    refine List.append_subset.2 ⟨?_, exponentChars_subset _⟩
    split
    · rename_i c c' r h
      rw [h] at hdigits
      obtain ⟨hc, hrest⟩ := List.cons_subset.1 hdigits
      exact List.cons_subset.2 ⟨hc, List.cons_subset.2 ⟨hpoint, hrest⟩⟩
    · exact hdigits

theorem exists_pointChar_write (d : Decimal) : ∃ c ∈ pointChars, c ∈ Layout.exact.write d := by
  unfold Layout.write
  simp only
  split
  · refine ⟨'.', by decide, ?_⟩
    split
    · simp
    · split <;> simp [Layout.exact]
  · exact ⟨'e', by decide, List.mem_append_right _ List.mem_cons_self⟩

/-- A finite double is read as a significand and an exponent. -/
theorem exists_reading {x : Float} (h : NumberSystem.isFinite x = true) :
    ∃ negative significand exponent,
      Reading.ofFloat x = .finite negative significand exponent := by
  unfold Reading.ofFloat
  simp only
  split
  · -- all bits of the exponent are set, which is what makes a double infinite or no number
    rename_i hscale
    have hexponent : @Float.Model.UnpackedFloat.unpackExponent .binary64 x.toModel.toBits.toBitVec =
        -1#11 :=
      BitVec.eq_of_toNat_eq ((Double.toNat_unpackExponent _).trans hscale)
    have hparts : ¬ (Double.parts x).isFinite = true := by
      change ¬ (Float.Model.UnpackedFloat.unpack _ _).isFinite = true
      unfold Float.Model.UnpackedFloat.unpack
      simp only
      rw [if_pos hexponent]
      split <;> exact Bool.false_ne_true
    exact absurd h hparts
  · split <;> exact ⟨_, _, _, rfl⟩

theorem isNaN_of_isFinite {x : Float} (h : NumberSystem.isFinite x = true) : x.isNaN = false := by
  have hparts : (Double.parts x).isFinite = true := h
  change (Double.parts x).isNaN = false
  cases hp : Double.parts x with
  | notANumber =>
    rw [hp] at hparts
    cases hparts
  | _ => rfl

/-- **The text of a finite double** consists of these characters, and one of them is a point or the
letter of an exponent. -/
theorem showFloat_chars {x : Float} (h : NumberSystem.isFinite x = true) :
    (showFloat x).toList ⊆ numeralChars ∧ ∃ c ∈ pointChars, c ∈ (showFloat x).toList := by
  obtain ⟨negative, significand, exponent, hx⟩ := exists_reading h
  have hsign : signChars negative ⊆ numeralChars := by
    cases negative <;> decide
  rw [showFloat, hx, String.toList_ofList]
  split
  · exact ⟨List.append_subset.2 ⟨hsign, by decide⟩, '.', by decide, by simp⟩
  · obtain ⟨c, hpoint, hc⟩ := exists_pointChar_write (shortest significand exponent)
    exact ⟨List.append_subset.2 ⟨hsign, write_subset (inDigits_shortestFrom _ _ _ _ _)⟩, c, hpoint,
      List.mem_append_right _ hc⟩

theorem mem_takeSign {c : Char} {cs : List Char} (hc : c ∈ cs) (hsign : c ≠ '-' ∧ c ≠ '+') :
    c ∈ (takeSign cs).2 := by
  unfold takeSign
  split
  · exact (List.mem_cons.1 hc).resolve_left hsign.1
  · exact (List.mem_cons.1 hc).resolve_left hsign.2
  · exact hc

theorem isAsciiDigit_of_takeDigits {cs : List Char} (h : (takeDigits cs).2 = []) {c : Char}
    (hc : c ∈ cs) : isAsciiDigit c = true := by
  induction cs with
  | nil => exact absurd hc List.not_mem_nil
  | cons c' cs ih =>
    rw [takeDigits] at h
    split at h
    · rename_i hdigit
      rcases List.mem_cons.1 hc with rfl | hc
      · exact hdigit
      · exact ih h hc
    · cases h

theorem pointChars_facts : ∀ c ∈ pointChars,
    isCellBlank c = false ∧ (c ≠ '-' ∧ c ≠ '+') ∧ isAsciiDigit c = false := by
  rw [← List.forall_iff_forall_mem]
  decide

/-- The text of a finite double is not taken for a whole number. -/
theorem cellInt?_showFloat {x : Float} (h : NumberSystem.isFinite x = true) :
    cellInt? (showFloat x) = none := by
  obtain ⟨-, c, hpoint, hc⟩ := showFloat_chars h
  obtain ⟨hblank, hsign, hdigit⟩ := pointChars_facts c hpoint
  have htrim : c ∈ Text.trimBy isCellBlank (showFloat x).toList := Text.mem_trimBy hc hblank
  have hunsigned : c ∈ (takeSign (Text.trimBy isCellBlank (showFloat x).toList)).2 :=
    mem_takeSign htrim hsign
  unfold cellInt?
  simp only
  split
  · rfl
  · rename_i ds _ hds
    have := isAsciiDigit_of_takeDigits (congrArg Prod.snd hds) hunsigned
    rw [hdigit] at this
    cases this
  · rfl

end Number
end PassiveAggressive
