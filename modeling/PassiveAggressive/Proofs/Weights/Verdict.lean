import PassiveAggressive.Proofs.Csv.Columns
import PassiveAggressive.Proofs.Csv.Numbers
import PassiveAggressive.Proofs.Number.Typed
import PassiveAggressive.Proofs.Scalar.Learner

/-!
# Weights files with a verdict

Loading a weights file comes to a verdict if it gives a model or names a row without a feature,
which is told to the user.  Everything else that can be wrong with the text of a file escapes:
that it is no table, that a column is missing, that a name made of digit-like characters is no
whole number, and that a weight cannot be read.

Which files have a verdict can be told from their cells (`isVerdict_ofText_iff`).  Only the rows in
front of the first one without a feature count, but for one thing: whether a truth value is a
weight depends on all cells of the column.
-/

namespace PassiveAggressive
namespace Weights

open Csv

variable {path : String} {intIds : Bool}

/-- The loading comes to a verdict: a model, or a row without a feature. -/
def IsVerdict : Except LoadFault (WeightMap Value Operand) → Prop
  | .ok _ | .error (.emptyFeature _ _) => True
  | .error _ => False

instance : DecidablePred IsVerdict
  | .ok _ | .error (.emptyFeature _ _) => inferInstanceAs (Decidable True)
  | .error (.missingFile _) | .error (.unreadable _) | .error (.malformed _)
  | .error (.missingColumn _) | .error (.badInteger _) | .error (.badWeight _)
  | .error (.fault _) => inferInstanceAs (Decidable False)

/-! ## Ids and weights -/

/-- The name can be read: it is no name of digit-like characters that should be a whole number and
is none, or one with too many digits. -/
def ReadableName (intIds : Bool) (name : String) : Prop :=
  intIds = true → Text.isAllDigits name = true →
    (∀ c ∈ name.toList, Text.isDecimal c = true) ∧ name.toList.length ≤ Number.maxDigits

/-- The cell of a weight can be read among those of its column: it is missing or a numeral, or they
are all truth values. -/
def ReadableWeight (cells : List String) (cell : String) : Prop :=
  isMissing cell = true ∨ (Number.float? cell).isSome = true ∨ areTruths cells = true

instance (intIds : Bool) (name : String) : Decidable (ReadableName intIds name) :=
  inferInstanceAs (Decidable (_ → _ → _ ∧ _))

instance (cells : List String) (cell : String) : Decidable (ReadableWeight cells cell) :=
  inferInstanceAs (Decidable (_ ∨ _ ∨ _))

theorem idOf_of_readName {name : String} {id : Value} (row : Nat)
    (h : Token.readName intIds name = .ok id) : idOf path intIds row (.text name) = .ok id := by
  dsimp only [idOf, Value.text?]
  rw [h]
  rfl

theorem idOf_of_badInteger {name : String} {e : Number.IntegerFault} (row : Nat)
    (h : Token.readName intIds name = .error (.badInteger e)) :
    idOf path intIds row (.text name) = .error (.badInteger e) := by
  dsimp only [idOf, Value.text?]
  rw [h]
  rfl

/-- A name is read as an id, or refused without a verdict. -/
theorem idOf_text (path : String) (intIds : Bool) (row : Nat) (name : String) :
    (ReadableName intIds name → ∃ id, idOf path intIds row (.text name) = .ok id ∧
      Key.check id = .ok ()) ∧
    (¬ ReadableName intIds name →
      ∃ e, idOf path intIds row (.text name) = .error (.badInteger e)) := by
  by_cases hdigits : (intIds && Text.isAllDigits name) = true
  · obtain ⟨hintIds, hall⟩ := Bool.and_eq_true_iff.1 hdigits
    have hread := Number.exists_natural_eq_ok_iff hall
    cases hname : Number.natural name with
    | ok n =>
      have hid : Token.readName intIds name = .ok (.int n) := by
        rw [Token.readName, if_pos hdigits, hname]
      exact ⟨fun _ => ⟨_, idOf_of_readName row hid, rfl⟩,
        fun h => absurd (fun _ _ => hread.1 ⟨n, hname⟩) h⟩
    | error e =>
      have hfault : Token.readName intIds name = .error (.badInteger e) := by
        rw [Token.readName, if_pos hdigits, hname]
      refine ⟨fun h => ?_, fun _ => ⟨e, idOf_of_badInteger row hfault⟩⟩
      obtain ⟨n, hn⟩ := hread.2 (h hintIds hall)
      rw [hname] at hn
      cases hn
  · have hid : Token.readName intIds name = .ok (.text name) := by
      rw [Token.readName, if_neg hdigits]
    refine ⟨fun _ => ⟨_, idOf_of_readName row hid, rfl⟩,
      fun h => absurd (fun hintIds hall => ?_) h⟩
    exact absurd (Bool.and_eq_true_iff.2 ⟨hintIds, hall⟩) hdigits

/-- A weight that cannot be read is refused without a verdict. -/
theorem not_isVerdict_of_weightOf {v : Value} {e : LoadFault} (h : weightOf v = .error e) :
    ¬ IsVerdict (.error e) := by
  unfold weightOf at h
  split at h
  · cases h
  · split at h
    · cases h
    · cases h
      exact id
    · cases h
      exact id

/-- A weight can be read from a cell of a column exactly if the cell can be read in it. -/
theorem exists_column_eq_map (cells : List String) :
    ∃ value : String → Value, Csv.column cells = cells.map value ∧
      ∀ cell ∈ cells, (∃ x, weightOf (value cell) = .ok x) ↔ ReadableWeight cells cell := by
  have hfloat : ∀ {cell : String}, (Number.cellFloat? cell).isSome = true →
      ReadableWeight cells cell := fun h => .inr (.inl (Number.isSome_float?_of_cellFloat? h))
  unfold Csv.column
  cases hwhole : wholeColumn? cells with
  | some ns =>
    refine ⟨fun cell => .int ((Number.cellInt? cell).getD 0), ?_, fun cell hcell => ?_⟩
    · rw [eq_map_of_wholeColumn? hwhole]
      exact List.map_map
    · obtain ⟨n, hn, hfit⟩ := exists_cellInt?_of_wholeColumn? hwhole hcell
      have hinf := Number.isInf_ofInt_of_fitTogether hfit n (List.mem_singleton_self n)
      refine iff_of_true ⟨Number.ofInt n, ?_⟩ (hfloat ?_)
      · simp [hn, weightOf, Value.toFloat?, hinf]
      · rcases Number.cellFloat?_of_cellInt? hn with h | h
        · rw [h]
          rfl
        · rw [h.2]
          rfl
  | none =>
    cases hfloats : readColumn? Number.cellFloat? .float cells with
    | some values =>
      obtain ⟨hall, rfl⟩ := readColumn?_eq_some_iff.1 hfloats
      refine ⟨_, rfl, fun cell hcell => ?_⟩
      cases hmissing : isMissing cell with
      | true => exact iff_of_true ⟨Number.nan, rfl⟩ (.inl hmissing)
      | false =>
        have hsome := (hall cell hcell).resolve_left (by simp [hmissing])
        obtain ⟨x, hx⟩ := Option.isSome_iff_exists.1 hsome
        refine iff_of_true ⟨x, ?_⟩ (hfloat hsome)
        rw [hx]
        rfl
    | none =>
      cases htruths : readColumn? (fun cell => truthTexts.lookup cell) .bool cells with
      | some values =>
        obtain ⟨-, rfl⟩ := readColumn?_eq_some_iff.1 htruths
        have hare : areTruths cells = true := by
          rw [← isSome_readColumn?_truths, htruths]
          rfl
        refine ⟨_, rfl, fun cell hcell => iff_of_true ?_ (.inr (.inr hare))⟩
        cases isMissing cell with
        | true => exact ⟨Number.nan, rfl⟩
        | false =>
          cases truthTexts.lookup cell with
          | none => exact ⟨Number.nan, rfl⟩
          | some b => exact ⟨_, rfl⟩
      | none =>
        have hare : areTruths cells = false := by
          rw [← isSome_readColumn?_truths, htruths]
          rfl
        refine ⟨textCell, rfl, fun cell _ => ?_⟩
        rw [ReadableWeight, hare, textCell]
        cases hmissing : isMissing cell with
        | true => simp [weightOf]
        | false =>
          have htext : weightOf (.text cell) =
              (Number.float? cell).elim (.error (.badWeight cell)) .ok := by
            have hfloat : (Value.text cell).toFloat? = .ok (Number.float? cell) := rfl
            rw [weightOf, hfloat]
            · cases Number.float? cell <;> rfl
            · nofun
          rw [if_neg Bool.false_ne_true, htext]
          cases Number.float? cell <;> simp

/-! ## Rows -/

theorem exists_add {m : WeightMap Value Operand} (hm : m.InSystem) {id : Value}
    (hkey : Key.check id = .ok ()) (w : Float) :
    ∃ m', m.add id (.real w) = .ok m' ∧ m'.InSystem := by
  obtain ⟨old, hold⟩ := hm.exists_get hkey
  have hadd : m.add id (.real w) = .ok (m.insert id (.real (NumberSystem.add old w))) := by
    rw [WeightMap.add, hold]
    rfl
  exact ⟨_, hadd, hm.add hadd⟩

/-- **Rows have a verdict** if those in front of the first one without a feature can be read. -/
theorem isVerdict_addRows_iff {α : Type} {name : α → String} {value : α → Value} {rows : List α}
    {m : WeightMap Value Operand} (hm : m.InSystem) (row : Nat) :
    IsVerdict (addRows path intIds row m (rows.map fun r => (textCell (name r), value r))) ↔
      ∀ r ∈ rows.takeWhile fun r => !isMissing (name r),
        ReadableName intIds (name r) ∧ ∃ x, weightOf (value r) = .ok x := by
  induction rows generalizing row m with
  | nil => exact iff_of_true trivial nofun
  | cons r rows ih =>
    rw [List.map_cons, addRows, textCell]
    cases hmissing : isMissing (name r) with
    | true =>
      refine iff_of_true trivial ?_
      rw [List.takeWhile_cons, hmissing]
      exact nofun
    | false =>
      rw [List.takeWhile_cons, hmissing, if_neg Bool.false_ne_true, Bool.not_false, if_pos rfl,
        List.forall_mem_cons]
      obtain ⟨hread, hrefuse⟩ := idOf_text path intIds row (name r)
      by_cases hname : ReadableName intIds (name r)
      · obtain ⟨id, hid, hkey⟩ := hread hname
        rw [hid, ok_bind]
        cases hweight : weightOf (value r) with
        | error e =>
          rw [error_bind]
          refine iff_of_false (not_isVerdict_of_weightOf hweight) ?_
          rintro ⟨⟨-, x, hx⟩, -⟩
          cases hx
        | ok x =>
          obtain ⟨m', hadd, hm'⟩ := exists_add hm hkey x
          rw [ok_bind, hadd]
          exact (ih hm' (row + 1)).trans (and_iff_right ⟨hname, x, rfl⟩).symm
      · obtain ⟨e, he⟩ := hrefuse hname
        rw [he, error_bind]
        exact iff_of_false id fun h => hname h.1.1

/-! ## Files -/

/-- The text is a table with a column of features and one of weights, and in every row in front of
the first one without a feature, the name and the weight can be read. -/
def Loadable (intIds : Bool) (text : String) : Prop :=
  ∃ header rows, IsTable text header rows ∧
    featureColumn ∈ columnNames header ∧ weightColumn ∈ columnNames header ∧
    ∀ row ∈ rows.takeWhile fun row => !isMissing (cellBelow header rows featureColumn row),
      ReadableName intIds (cellBelow header rows featureColumn row) ∧
      ReadableWeight (rows.map (cellBelow header rows weightColumn))
        (cellBelow header rows weightColumn row)

theorem weightColumn_ne (tail : String) : weightColumn ≠ featureColumn ++ tail := by
  intro h
  have hchars := congrArg String.toList h
  rw [String.toList_append] at hchars
  exact absurd (List.cons.inj hchars).1 (by decide)

/-- **The files that come to a verdict** can be told from their cells. -/
theorem isVerdict_ofText_iff {text : String} :
    IsVerdict (ofText path intIds text) ↔ Loadable intIds text := by
  unfold ofText
  cases hread : Csv.read featureColumn text with
  | error e =>
    refine iff_of_false id ?_
    rintro ⟨header, rows, htable, -⟩
    obtain ⟨t, ht, -⟩ := column?_of_isTable featureColumn htable
    rw [hread] at ht
    cases ht
  | ok t =>
    obtain ⟨header, rows, htable⟩ := exists_isTable_of_read hread
    obtain ⟨t', ht', hcolumn⟩ := column?_of_isTable featureColumn htable
    obtain rfl : t = t' := Except.ok.inj (hread.symm.trans ht')
    have hloadable : Loadable intIds text ↔
        featureColumn ∈ columnNames header ∧ weightColumn ∈ columnNames header ∧
        ∀ row ∈ rows.takeWhile fun row => !isMissing (cellBelow header rows featureColumn row),
          ReadableName intIds (cellBelow header rows featureColumn row) ∧
          ReadableWeight (rows.map (cellBelow header rows weightColumn))
            (cellBelow header rows weightColumn row) := by
      constructor
      · rintro ⟨header', rows', htable', h⟩
        obtain ⟨rfl, rfl⟩ := htable.unique htable'
        exact h
      · exact fun h => ⟨header, rows, htable, h⟩
    rw [hloadable]
    simp only [ofTable, hcolumn]
    by_cases hfeature : featureColumn ∈ columnNames header
    · by_cases hweight : weightColumn ∈ columnNames header
      · rw [if_pos hfeature, if_pos hweight]
        have htexts : isPinned featureColumn header featureColumn = true := by simp [isPinned]
        have hweights : isPinned featureColumn header weightColumn = false :=
          isPinned_eq_false hweight weightColumn_ne
        obtain ⟨value, hvalue, hreadable⟩ :=
          exists_column_eq_map (rows.map (cellBelow header rows weightColumn))
        have hzip : (textColumn (rows.map (cellBelow header rows featureColumn))).zip
              (Csv.column (rows.map (cellBelow header rows weightColumn))) =
            rows.map fun row => (textCell (cellBelow header rows featureColumn row),
              value (cellBelow header rows weightColumn row)) := by
          rw [hvalue, List.map_map]
          exact (congrArg (List.zip · _) List.map_map).trans List.zip_map'
        rw [htexts, hweights, if_pos rfl, if_neg Bool.false_ne_true]
        simp only [hzip]
        rw [isVerdict_addRows_iff WeightMap.inSystem_empty, and_iff_right hfeature, and_iff_right hweight]
        refine forall₂_congr fun row hrow => and_congr_right fun _ => hreadable _ ?_
        exact List.mem_map_of_mem (List.takeWhile_subset _ hrow)
      · rw [if_pos hfeature, if_neg hweight]
        exact iff_of_false id fun h => hweight h.2.1
    · rw [if_neg hfeature]
      exact iff_of_false id fun h => hfeature h.1

/-! ## Faults of a text -/

/-- The fault is one of the text of a file, and not of the file. -/
def LoadFault.IsOfText : LoadFault → Prop
  | missingFile _ | unreadable _ => False
  | _ => True

theorem isOfText_of_addRows {rows : List (Value × Value)} {row : Nat} {m : WeightMap Value Operand}
    {e : LoadFault} (h : addRows path intIds row m rows = .error e) : e.IsOfText := by
  induction rows generalizing row m with
  | nil => cases h
  | cons r rows ih =>
    rw [addRows] at h
    cases hid : idOf path intIds row r.1 with
    | error e' =>
      rw [hid] at h
      obtain rfl : e' = e := Except.error.inj h
      unfold idOf at hid
      split at hid
      · cases hid
        trivial
      · rename_i name _
        cases hname : Token.readName intIds name with
        | ok id =>
          rw [hname] at hid
          cases hid
        | error e'' =>
          rw [hname] at hid
          cases e'' <;> cases hid <;> trivial
    | ok id =>
      rw [hid, ok_bind] at h
      cases hweight : weightOf r.2 with
      | error e' =>
        rw [hweight] at h
        obtain rfl : e' = e := Except.error.inj h
        unfold weightOf at hweight
        split at hweight
        · cases hweight
        · split at hweight <;> cases hweight <;> trivial
      | ok w =>
        rw [hweight, ok_bind] at h
        cases hadd : m.add id (.real w) with
        | error f =>
          rw [hadd] at h
          cases h
          trivial
        | ok m' =>
          rw [hadd] at h
          exact ih h

theorem isOfText_of_ofText {text : String} {e : LoadFault}
    (h : ofText path intIds text = .error e) : e.IsOfText := by
  unfold ofText at h
  split at h
  · cases h
    trivial
  · unfold ofTable at h
    split at h
    · cases h
      trivial
    · cases h
      trivial
    · exact isOfText_of_addRows h

theorem load_of_read {w : Files} {p : Path} {text : String} (h : w.read p = .ok text) :
    load w p intIds = ofText p.display intIds text := by
  rw [load, Files.has_of_read h, h, Bool.not_true, if_neg Bool.false_ne_true]

end Weights
end PassiveAggressive
