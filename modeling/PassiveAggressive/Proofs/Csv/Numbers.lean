import PassiveAggressive.Csv.Column
import PassiveAggressive.Proofs.Example.Targets

/-!
# The numbers of a column

A column is read as a whole and its cells are made numbers afterwards, so the number in a cell
depends on the cells beside it.  `numberAmong` is that number, from the cell and from two things
about the column: whether it is one of whole numbers, and whether it is one of truth values.

A cell that stands alone makes a column of its own.  What becomes of it among others is settled
by `numberAmong_eq_alone`: the same number, but for two kinds of cell.

* A truth value counts as zero or one in a column of truth values, and as missing in any other
  (`LosesTruth`).
* A negative zero without a point has no sign in a column of whole numbers, and it has one in
  any other (`GainsSign`).
-/

namespace PassiveAggressive

namespace Number

theorem ofDecimal_zero_exponent (negative : Bool) (digits : Nat) :
    ofDecimal negative digits 0 = nearest negative digits 1 := by
  by_cases hzero : digits = 0
  · subst hzero
    simp [ofDecimal, nearest]
  · have hplaces : ¬(digits.log2 : Int) + 3 * 0 < -1200 := by omega
    simp only [ofDecimal, if_neg hzero, if_neg hplaces]
    simp [tenTo_zero]

theorem ofInt_signed {negative : Bool} {digits : Nat} (h : ¬(negative = true ∧ digits = 0)) :
    ofInt (if negative then -(digits : Int) else digits) = nearest negative digits 1 := by
  cases negative with
  | false =>
    have hsign : decide ((digits : Int) < 0) = false := decide_eq_false (by omega)
    rw [if_neg Bool.false_ne_true, ofInt, hsign, Int.natAbs_natCast]
  | true =>
    have hpos : digits ≠ 0 := fun hzero => h ⟨rfl, hzero⟩
    have hsign : decide (-(digits : Int) < 0) = true := decide_eq_true (by omega)
    rw [if_pos rfl, ofInt, hsign, Int.natAbs_neg, Int.natAbs_natCast]

theorem unsigned?_of_takeDigits {cs : List Char} {ds : List Nat} (h : takeDigits cs = (ds, []))
    (hsome : ds ≠ []) (negative : Bool) :
    unsigned? negative cs = some (nearest negative (Text.valueOfDigits ds) 1) := by
  have hempty : ds.isEmpty = false := List.isEmpty_eq_false_iff.2 hsome
  simp [unsigned?, h, hempty, exponent?, ofDecimal_zero_exponent]

/-- A zero with a sign and without a point. -/
def IsMinusZero (s : String) : Prop := cellInt? s = some 0 ∧ cellFloat? s = some (zero true)

instance : DecidablePred IsMinusZero := fun _ => inferInstanceAs (Decidable (_ ∧ _))

/-- A whole number in a cell is a numeral as well, and the same number, unless it is the zero with
a sign. -/
theorem cellFloat?_of_cellInt? {s : String} {n : Int} (h : cellInt? s = some n) :
    cellFloat? s = some (ofInt n) ∨ IsMinusZero s := by
  unfold IsMinusZero
  rw [h]
  unfold cellInt? at h
  unfold cellFloat?
  generalize takeSign (Text.trimBy isCellBlank s.toList) = signed at h ⊢
  obtain ⟨negative, cs⟩ := signed
  dsimp only at h ⊢
  split at h
  · cases h
  · rename_i ds hsome hdigits
    rw [unsigned?_of_takeDigits hdigits hsome]
    cases Option.some.inj h
    by_cases hzero : negative = true ∧ Text.valueOfDigits ds = 0
    · obtain ⟨rfl, hvalue⟩ := hzero
      right
      simp [hvalue, nearest]
    · exact .inl (congrArg some (ofInt_signed hzero).symm)
  · cases h

end Number

namespace Csv

/-! ## Cells -/

/-- The cell is a truth value. -/
def isTruth (cell : String) : Bool := (truthTexts.lookup cell).isSome

/-- All cells are truth values, the missing ones apart. -/
def areTruths (cells : List String) : Bool := cells.all fun cell => isMissing cell || isTruth cell

/-- A cell of a column of texts. -/
def textCell (cell : String) : Value := if isMissing cell then .null else .text cell

/-- The number in a cell; `truths` says whether a truth value counts as one. -/
def cellNumber (truths : Bool) (cell : String) : Float :=
  if isMissing cell then Number.nan
  else
    match Number.cellFloat? cell with
    | some x => Table.finiteOrMissing x
    | none =>
      if truths then
        match truthTexts.lookup cell with
        | some b => Number.ofInt (if b then 1 else 0)
        | none => Number.nan
      else Number.nan

theorem missing_facts {cell : String} (h : isMissing cell = true) :
    Number.cellInt? cell = none ∧ Number.cellFloat? cell = none ∧
      Text.isAllDigits cell = false ∧ isTruth cell = false := by
  have hall : ∀ s ∈ missingTexts, Number.cellInt? s = none ∧ Number.cellFloat? s = none ∧
      Text.isAllDigits s = false ∧ isTruth s = false := by decide +kernel
  exact hall cell (List.contains_iff_mem.1 h)

theorem isMissing_of_cellInt? {cell : String} {n : Int} (h : Number.cellInt? cell = some n) :
    isMissing cell = false := by
  rw [Bool.eq_false_iff]
  intro hmissing
  rw [(missing_facts hmissing).1] at h
  cases h

theorem truth_facts {cell : String} (h : isTruth cell = true) :
    Number.cellInt? cell = none ∧ Number.cellFloat? cell = none ∧ isMissing cell = false := by
  have hall : ∀ p ∈ truthTexts, Number.cellInt? p.1 = none ∧ Number.cellFloat? p.1 = none ∧
      isMissing p.1 = false := by decide +kernel
  obtain ⟨p, hp, hcell⟩ := List.lookup_isSome_iff.1 h
  rw [eq_of_beq hcell]
  exact hall p hp

/-! ## Columns -/

theorem number_textCell (cell : String) :
    Table.number (textCell cell) = .ok (cellNumber false cell) := by
  unfold textCell cellNumber
  split
  · rfl
  · simp only [Table.number, Value.text?, Option.bind_some]
    cases Number.cellFloat? cell <;> rfl

theorem whole?_textCell (cell : String) :
    Table.whole? (textCell cell) = Number.cellInt? cell := by
  unfold textCell
  split
  · rename_i hmissing
    rw [(missing_facts hmissing).1]
    rfl
  · rfl

theorem wholeColumn?_eq_some_iff {cells : List String} {ns : List Int} :
    wholeColumn? cells = some ns ↔
      cells.mapM Number.cellInt? = some ns ∧ Number.fitTogether ns = true := by
  unfold wholeColumn?
  cases cells.mapM Number.cellInt? with
  | none => simp
  | some ms =>
    simp only [Option.bind_eq_bind, Option.bind_some]
    split
    · rename_i hfit
      constructor
      · rintro ⟨⟩
        exact ⟨rfl, hfit⟩
      · rintro ⟨⟨⟩, -⟩
        rfl
    · rename_i hfit
      constructor
      · nofun
      · rintro ⟨⟨⟩, h⟩
        exact absurd h hfit

/-- A column of texts holds the whole numbers in them, or else what each text is by itself. -/
theorem numbers_textColumn (cells : List String) :
    Table.numbers (textColumn cells) = .ok (match wholeColumn? cells with
      | some ns => ns.map Number.ofInt
      | none => cells.map (cellNumber false)) := by
  have hwhole : (textColumn cells).mapM Table.whole? = cells.mapM Number.cellInt? := by
    change (cells.map textCell).mapM Table.whole? = _
    rw [List.mapM_map]
    exact congrArg (fun f => cells.mapM f) (funext whole?_textCell)
  have hnumber : (textColumn cells).mapM Table.number = .ok (cells.map (cellNumber false)) := by
    change (cells.map textCell).mapM Table.number = _
    rw [List.mapM_map]
    exact mapM_eq_ok_map fun cell _ => number_textCell cell
  rw [Table.numbers, hwhole, hnumber]
  cases hcolumn : wholeColumn? cells with
  | some ns =>
    obtain ⟨hread, hfit⟩ := wholeColumn?_eq_some_iff.1 hcolumn
    simp [hread, hfit]
  | none =>
    split
    · rename_i ns hread
      have hfit : ¬Number.fitTogether ns = true := fun hfit => by
        rw [wholeColumn?_eq_some_iff.2 ⟨hread, hfit⟩] at hcolumn
        cases hcolumn
      rw [if_neg hfit]
    · rfl

/-- A column is read cell by cell, if its whole numbers are read alone as they are together. -/
theorem numbers_map {value : String → Value} {y : String → Float} {cells : List String}
    (hnumber : ∀ cell ∈ cells, Table.number (value cell) = .ok (y cell))
    (hwhole : ∀ cell ∈ cells, ∀ n, Table.whole? (value cell) = some n →
      y cell = Number.ofInt n) :
    Table.numbers (cells.map value) = .ok (cells.map y) := by
  have hread : (cells.map value).mapM Table.number = .ok (cells.map y) := by
    rw [List.mapM_map]
    exact mapM_eq_ok_map hnumber
  unfold Table.numbers
  split
  · rename_i ns hns
    split
    · rw [mapM_eq_some_iff, List.forall₂_map_left_iff] at hns
      have hsame := (List.forall₂_and_left cells ns).2 ⟨hwhole, hns⟩
      have hboth : List.Forall₂ Eq (cells.map y) (ns.map Number.ofInt) :=
        List.forall₂_map_left_iff.2 (List.forall₂_map_right_iff.2
          (hsame.imp fun cell n h => h.1 n h.2))
      rw [List.forall₂_eq_eq_eq] at hboth
      rw [hboth]
    · exact hread
  · exact hread

/-- A column of one kind holds what is read from each cell, and null where a cell is missing. -/
theorem readColumn?_eq_some_iff {α : Type} {read : String → Option α} {toValue : α → Value}
    {cells : List String} {values : List Value} :
    readColumn? read toValue cells = some values ↔
      (∀ cell ∈ cells, isMissing cell = true ∨ (read cell).isSome = true) ∧
        values = cells.map fun cell =>
          if isMissing cell then .null else (read cell).elim .null toValue := by
  have hcell : ∀ cell v,
      (if isMissing cell then some .null else (read cell).map toValue) = some v ↔
        (isMissing cell = true ∨ (read cell).isSome = true) ∧
          v = if isMissing cell then .null else (read cell).elim .null toValue := by
    intro cell v
    cases isMissing cell <;> cases read cell <;> simp [eq_comm]
  unfold readColumn?
  rw [mapM_eq_some_iff]
  simp only [hcell, List.forall₂_and_left]
  rw [← List.forall₂_eq_eq_eq, List.forall₂_map_right_iff]
  exact and_congr_right fun _ => ⟨.flip, .flip⟩

/-- A column of one kind is read cell by cell, with its missing cells as missing. -/
theorem numbers_readColumn? {α : Type} {read : String → Option α} {toValue : α → Value}
    {y : String → Float} {cells : List String} {values : List Value}
    (h : readColumn? read toValue cells = some values)
    (hmissing : ∀ cell, isMissing cell = true → y cell = Number.nan)
    (hvalue : ∀ cell a, isMissing cell = false → read cell = some a →
      Table.number (toValue a) = .ok (y cell) ∧
        ∀ n, Table.whole? (toValue a) = some n → y cell = Number.ofInt n) :
    Table.numbers values = .ok (cells.map y) := by
  obtain ⟨hall, rfl⟩ := readColumn?_eq_some_iff.1 h
  refine numbers_map (fun cell hcell => ?_) fun cell hcell n hn => ?_
  · cases hm : isMissing cell with
    | true => simp [hmissing cell hm, Table.number, Value.text?]
    | false =>
      obtain ⟨a, ha⟩ := Option.isSome_iff_exists.1
        ((hall cell hcell).resolve_left (by simp [hm]))
      simpa [ha] using (hvalue cell a hm ha).1
  · cases hm : isMissing cell with
    | true => simp [hm, Table.whole?, Value.text?] at hn
    | false =>
      cases ha : read cell with
      | none => simp [hm, ha, Table.whole?, Value.text?] at hn
      | some a => exact (hvalue cell a hm ha).2 n (by simpa [hm, ha] using hn)

theorem isSome_readColumn?_truths (cells : List String) :
    (readColumn? (fun cell => truthTexts.lookup cell) .bool cells).isSome = areTruths cells := by
  rw [Bool.eq_iff_iff, areTruths, List.all_eq_true]
  simp only [Bool.or_eq_true]
  constructor
  · intro h
    obtain ⟨values, hvalues⟩ := Option.isSome_iff_exists.1 h
    exact (readColumn?_eq_some_iff.1 hvalues).1
  · intro h
    exact Option.isSome_iff_exists.2 ⟨_, readColumn?_eq_some_iff.2 ⟨h, rfl⟩⟩

/-- A column that is none of whole numbers is read cell by cell; truth values count in a column of
truth values only. -/
theorem numbers_column {cells : List String} (h : wholeColumn? cells = none) :
    Table.numbers (column cells) = .ok (cells.map (cellNumber (areTruths cells))) := by
  have hmissing : ∀ truths cell, isMissing cell = true → cellNumber truths cell = Number.nan :=
    fun truths cell hcell => by simp [cellNumber, hcell]
  rw [column, h]
  dsimp only
  cases hfloats : readColumn? Number.cellFloat? .float cells with
  | some values =>
    refine numbers_readColumn? hfloats (hmissing _) fun cell x hcell hx => ⟨?_, nofun⟩
    simp [cellNumber, hcell, hx, Table.number]
  | none =>
    cases htruths : readColumn? (fun cell => truthTexts.lookup cell) .bool cells with
    | some values =>
      have hare : areTruths cells = true := by
        rw [← isSome_readColumn?_truths, htruths]
        rfl
      rw [hare]
      refine numbers_readColumn? htruths (hmissing _) fun cell b hcell hb => ?_
      have hfloat := (truth_facts (Option.isSome_of_eq_some hb)).2.1
      have hnumber : cellNumber true cell = Number.ofInt (if b then 1 else 0) := by
        simp [cellNumber, hcell, hfloat, hb]
      rw [hnumber]
      exact ⟨rfl, fun n hn => by cases hn; rfl⟩
    | none =>
      have hare : areTruths cells = false := by
        rw [← isSome_readColumn?_truths, htruths]
        rfl
      rw [hare, Option.getD_none, numbers_textColumn, h]

/-! ## A cell among others -/

/-- The number in a cell among the cells of its column; `pinned` says whether the column is kept as
texts. -/
def numberAmong (pinned : Bool) (cells : List String) (cell : String) : Float :=
  match wholeColumn? cells with
  | some _ => Number.ofInt ((Number.cellInt? cell).getD 0)
  | none => cellNumber (!pinned && areTruths cells) cell

theorem wholeColumn?_singleton_eq_some {cell : String} {n : Int}
    (h : Number.cellInt? cell = some n) (hfit : Number.fitTogether [n] = true) :
    wholeColumn? [cell] = some [n] :=
  wholeColumn?_eq_some_iff.2 ⟨mapM_eq_some_iff.2 (.cons h .nil), hfit⟩

/-- A cell that is no whole number of 64 bits is none when it stands alone. -/
theorem cellInt?_of_wholeColumn?_singleton {cell : String} {ns : List Int}
    (h : wholeColumn? [cell] = some ns) :
    ∃ n, Number.cellInt? cell = some n ∧ Number.fitTogether [n] = true := by
  obtain ⟨hread, hfit⟩ := wholeColumn?_eq_some_iff.1 h
  obtain ⟨n, rest, hn, hrest, rfl⟩ := List.forall₂_cons_left_iff.1 (mapM_eq_some_iff.1 hread)
  cases hrest
  exact ⟨n, hn, hfit⟩

theorem exists_cellInt?_of_wholeColumn? {cells : List String} {ns : List Int}
    (h : wholeColumn? cells = some ns) {cell : String} (hcell : cell ∈ cells) :
    ∃ n, Number.cellInt? cell = some n ∧ Number.fitTogether [n] = true := by
  obtain ⟨hread, hfit⟩ := wholeColumn?_eq_some_iff.1 h
  obtain ⟨n, hn, hread⟩ := exists_mem_of_forall₂ (mapM_eq_some_iff.1 hread) cell hcell
  refine ⟨n, hread, ?_⟩
  rw [Number.fitTogether, Bool.or_eq_true] at hfit ⊢
  exact hfit.imp (fun hall => by simpa using List.all_eq_true.1 hall n hn)
    fun hall => by simpa using List.all_eq_true.1 hall n hn

theorem eq_map_of_wholeColumn? {cells : List String} {ns : List Int}
    (h : wholeColumn? cells = some ns) :
    ns = cells.map fun cell => (Number.cellInt? cell).getD 0 := by
  have hread := mapM_eq_some_iff.1 (wholeColumn?_eq_some_iff.1 h).1
  clear h
  induction hread with
  | nil => rfl
  | cons hfirst _ ih => rw [List.map_cons, ← ih, hfirst, Option.getD_some]

theorem map_ofInt_of_wholeColumn? {cells : List String} {ns : List Int}
    (h : wholeColumn? cells = some ns) :
    ns.map Number.ofInt = cells.map fun cell => Number.ofInt ((Number.cellInt? cell).getD 0) := by
  rw [eq_map_of_wholeColumn? h, List.map_map]
  rfl

/-- **The numbers of a column** are those of its cells among each other. -/
theorem numbers_eq_map (pinned : Bool) (cells : List String) :
    Table.numbers (if pinned then textColumn cells else column cells) =
      .ok (cells.map (numberAmong pinned cells)) := by
  unfold numberAmong
  cases hcolumn : wholeColumn? cells with
  | some ns =>
    dsimp only
    rw [← map_ofInt_of_wholeColumn? hcolumn]
    cases pinned with
    | true => rw [if_pos rfl, numbers_textColumn, hcolumn]
    | false =>
      have hfit := (wholeColumn?_eq_some_iff.1 hcolumn).2
      have hread : (ns.map Value.int).mapM Table.whole? = some ns := by
        rw [mapM_eq_some_iff, List.forall₂_map_left_iff]
        exact List.forall₂_same.2 fun _ _ => rfl
      simp [column, hcolumn, Table.numbers, hread, hfit]
  | none =>
    cases pinned with
    | true => simp [numbers_textColumn, hcolumn]
    | false => simp [numbers_column hcolumn]

/-- A truth value among cells that are neither truth values nor missing. -/
def LosesTruth (pinned : Bool) (cells : List String) (cell : String) : Prop :=
  isTruth cell = true ∧ pinned = false ∧ areTruths cells = false

/-- A negative zero without a point among cells that are no whole numbers of 64 bits. -/
def GainsSign (cells : List String) (cell : String) : Prop :=
  Number.IsMinusZero cell ∧ wholeColumn? cells = none

instance (pinned : Bool) (cells : List String) : DecidablePred (LosesTruth pinned cells) :=
  fun _ => inferInstanceAs (Decidable (_ ∧ _ ∧ _))

instance (cells : List String) : DecidablePred (GainsSign cells) :=
  fun _ => inferInstanceAs (Decidable (_ ∧ _))

variable {pinned : Bool} {cells : List String} {cell : String}

/-- What is no truth value does not depend on whether truth values count. -/
theorem cellNumber_congr (h : isTruth cell = false) (truths truths' : Bool) :
    cellNumber truths cell = cellNumber truths' cell := by
  have hnone : truthTexts.lookup cell = none := by simpa [isTruth] using h
  unfold cellNumber
  rw [hnone]
  cases truths <;> cases truths' <;> rfl

/-- **A truth value among others** counts as missing, and alone as zero or one. -/
theorem numberAmong_of_losesTruth (h : LosesTruth pinned cells cell) (hcell : cell ∈ cells) :
    numberAmong pinned cells cell = Number.nan ∧
      (numberAmong pinned [cell] cell).isFinite = true := by
  obtain ⟨htruth, rfl, hare⟩ := h
  obtain ⟨hint, hfloat, hmissing⟩ := truth_facts htruth
  have hnot : ∀ {cells : List String}, cell ∈ cells → wholeColumn? cells = none := by
    intro cells hcell
    cases hcolumn : wholeColumn? cells with
    | none => rfl
    | some ns =>
      obtain ⟨n, hn, -⟩ := exists_cellInt?_of_wholeColumn? hcolumn hcell
      rw [hint] at hn
      cases hn
  obtain ⟨b, hb⟩ := Option.isSome_iff_exists.1 htruth
  constructor
  · simp [numberAmong, hnot hcell, hare, cellNumber, hmissing, hfloat]
  · have halone : areTruths [cell] = true := by simp [areTruths, htruth]
    have hvalue : numberAmong false [cell] cell = Number.ofInt (if b then 1 else 0) := by
      simp [numberAmong, hnot (List.mem_singleton_self cell), halone, cellNumber, hmissing, hfloat,
        hb]
    rw [hvalue]
    cases b <;> decide +kernel

/-- **A negative zero among others** has its sign, and alone it has none. -/
theorem numberAmong_of_gainsSign (pinned : Bool) (h : GainsSign cells cell) :
    numberAmong pinned cells cell = Number.zero true ∧
      numberAmong pinned [cell] cell = Number.zero false := by
  obtain ⟨⟨hint, hfloat⟩, hcolumn⟩ := h
  have hmissing := isMissing_of_cellInt? hint
  have hzero : Table.finiteOrMissing (Number.zero true) = Number.zero true := by decide +kernel
  constructor
  · simp [numberAmong, hcolumn, cellNumber, hmissing, hfloat, hzero]
  · rw [numberAmong, wholeColumn?_singleton_eq_some hint (by decide)]
    simp [hint, Number.ofInt, Number.nearest]

/-- **Every other cell** is the same number among others as alone. -/
theorem numberAmong_eq_alone (hcell : cell ∈ cells) (htruth : ¬LosesTruth pinned cells cell)
    (hsign : ¬GainsSign cells cell) :
    numberAmong pinned cells cell = numberAmong pinned [cell] cell := by
  cases hcolumn : wholeColumn? cells with
  | some ns =>
    obtain ⟨n, hn, hfit⟩ := exists_cellInt?_of_wholeColumn? hcolumn hcell
    rw [numberAmong, numberAmong, hcolumn, wholeColumn?_singleton_eq_some hn hfit]
  | none =>
    cases halone : wholeColumn? [cell] with
    | some ns =>
      -- a whole number of 64 bits, which among others is read as a double
      obtain ⟨n, hn, hfit⟩ := cellInt?_of_wholeColumn?_singleton halone
      have hfloat : Number.cellFloat? cell = some (Number.ofInt n) :=
        (Number.cellFloat?_of_cellInt? hn).resolve_right fun hzero => hsign ⟨hzero, hcolumn⟩
      have hmissing := isMissing_of_cellInt? hn
      have hfinite := Number.isFinite_ofInt_of_fitTogether hfit n (List.mem_singleton_self n)
      simp [numberAmong, hcolumn, halone, cellNumber, hmissing, hfloat, hn, Table.finiteOrMissing,
        hfinite]
    | none =>
      rw [numberAmong, numberAmong, hcolumn, halone]
      cases hcell' : isTruth cell with
      | false => exact cellNumber_congr hcell' _ _
      | true =>
        have halone : areTruths [cell] = true := by simp [areTruths, hcell']
        have hflag : (!pinned && areTruths cells) = !pinned := by
          cases hpinned : pinned with
          | true => rfl
          | false =>
            have hare : areTruths cells ≠ false := fun hare => htruth ⟨hcell', hpinned, hare⟩
            simpa using hare
        simp only [halone, hflag, Bool.and_true]

end Csv
end PassiveAggressive
