import PassiveAggressive.Proofs.Csv.Numbers
import PassiveAggressive.Proofs.Example.Names
import PassiveAggressive.Proofs.Files.Writing
import PassiveAggressive.Proofs.Session.Learnt
import PassiveAggressive.Proofs.Weights.Rows

/-!
# Loading what has been saved

What loading makes of the text of a model.  The column of weights is read as numerals,
because no text of a finite double is taken for a whole number, and the column of ids as
texts.  So every record adds what `rowOf` says (`ofText_written`).

A row whose id comes back (`ComesBack`) is one record, and adds its weight to zero
(`ofText_written_eq`).  If all of them do, and no weight is negative zero, the model is what it
was (`ofText_written_of_comesBack`).
-/

namespace PassiveAggressive

/-! ## Columns of numerals -/

namespace Csv

/-- A cell of a column of numerals. -/
def numeralCell (cell : String) : Value :=
  if isMissing cell then .null else (Number.cellFloat? cell).elim .null .float

/-- The cell is missing or a numeral with a point or an exponent. -/
structure IsNumeralCell (cell : String) : Prop where
  notWhole : Number.cellInt? cell = none
  reads : isMissing cell = false → ∃ x, Number.cellFloat? cell = some x

theorem isNumeralCell_empty : IsNumeralCell "" := ⟨by decide +kernel, fun h => absurd h (by decide)⟩

/-- **A column of numerals** holds doubles, and null where a cell is missing. -/
theorem column_of_numerals {cells : List String} (h : ∀ cell ∈ cells, IsNumeralCell cell) :
    column cells = cells.map numeralCell := by
  cases cells with
  | nil => rfl
  | cons first rest =>
    have hwhole : wholeColumn? (first :: rest) = none := by
      rw [wholeColumn?, List.mapM_cons, (h first List.mem_cons_self).notWhole]
      rfl
    have hread : readColumn? Number.cellFloat? .float (first :: rest) =
        some ((first :: rest).map numeralCell) := by
      refine readColumn?_eq_some_iff.2 ⟨fun cell hcell => ?_, rfl⟩
      cases hmissing : isMissing cell with
      | true => exact .inl rfl
      | false => exact .inr (Option.isSome_iff_exists.2 ((h cell hcell).reads hmissing))
    rw [column, hwhole]
    simp only [hread]

end Csv

namespace Weights

open Csv

variable {path : String} {intIds : Bool}

/-- What the cells of a record say: an id and a weight. -/
def rowOf (cells : List String) : Value × Value :=
  (textCell (cells.getD 0 ""), numeralCell (cells.getD 1 ""))

/-- A text that a weight can have in its cell. -/
structure IsWeightText (s : String) : Prop extends IsNumeralCell s where
  plain : ∀ c ∈ s.toList, IsPlain c

/-- **Loading a file of rows** adds up what its records say. -/
theorem ofText_fileOf {rows : List (String × String)} (hweights : ∀ r ∈ rows, IsWeightText r.2) :
    ofText path intIds (fileOf rows) =
      addRows path intIds 0 .empty ((recordsOf rows).map rowOf) := by
  have hcolumn : Csv.column ((recordsOf rows).map fun r => r.getD 1 "") =
      (recordsOf rows).map fun r => numeralCell (r.getD 1 "") := by
    rw [column_of_numerals, List.map_map]
    · rfl
    · intro cell hcell
      obtain ⟨cells, hmem, rfl⟩ := List.mem_map.1 hcell
      obtain ⟨row, hrow, hmem⟩ := List.mem_flatMap.1 hmem
      rcases of_mem_rowRecords hmem with ⟨cell, rfl⟩ | ⟨cell, rfl⟩
      · exact isNumeralCell_empty
      · exact (hweights row hrow).toIsNumeralCell
  have htexts : textColumn ((recordsOf rows).map fun r => r.getD 0 "") =
      (recordsOf rows).map fun r => textCell (r.getD 0 "") := by
    rw [textColumn, List.map_map]
    rfl
  have hread := read_fileOf fun r hr => (hweights r hr).plain
  rw [ofText, hread]
  simp only [ofTable, tableOf, Table.column?, hcolumn, htexts]
  have hfeatures : ∀ features weights : List Value,
      [(featureColumn, features), (weightColumn, weights)].lookup featureColumn = some features :=
    fun _ _ => rfl
  have hlookup : ∀ features weights : List Value,
      [(featureColumn, features), (weightColumn, weights)].lookup weightColumn = some weights :=
    fun _ _ => rfl
  rw [hfeatures, hlookup]
  simp only [List.zip_map']
  rfl

/-! ## Ids and weights in cells -/

theorem isPlain_of_mem_numeralChars : ∀ c ∈ Number.numeralChars, IsPlain c := by
  rw [← List.forall_iff_forall_mem]
  decide

/-- A double can be read from the text it is written with. -/
def ReadsBack : Operand → Prop
  | .real x => Number.cellFloat? (Number.showFloat x) = some x
  | _ => True

instance : DecidablePred ReadsBack
  | .real x => inferInstanceAs (Decidable (Number.cellFloat? (Number.showFloat x) = some x))
  | .int _ | .bool _ | .foreign _ => inferInstanceAs (Decidable True)

variable {w : Float}

theorem isWeightText_showFloat (hfinite : NumberSystem.isFinite w = true)
    (hback : ReadsBack (.real w)) : IsWeightText (Number.showFloat w) where
  notWhole := Number.cellInt?_showFloat hfinite
  reads := fun _ => ⟨w, hback⟩
  plain := fun c hc => isPlain_of_mem_numeralChars c ((Number.showFloat_chars hfinite).1 hc)

theorem numeralCell_showFloat (hback : ReadsBack (.real w)) :
    numeralCell (Number.showFloat w) = .float w := by
  have hback : Number.cellFloat? (Number.showFloat w) = some w := hback
  have hmissing : ¬ Csv.isMissing (Number.showFloat w) = true := by
    intro h
    have hnone := (missing_facts h).2.1
    rw [hback] at hnone
    cases hnone
  rw [numeralCell, if_neg hmissing, hback]
  rfl

/-- A text or a whole number. -/
def IsTextOrWhole : Value → Prop
  | .text _ | .int _ => True
  | _ => False

/-- Texts and whole numbers are the same key if they are equal; a number is never the same key as
its digits. -/
theorem same_iff_eq {a b : Value} (ha : IsTextOrWhole a) (hb : IsTextOrWhole b) :
    Key.same a b = true ↔ a = b := by
  have hsame : Key.same a b = true ↔
      ∃ p, Value.keyParts a = .ok p ∧ Value.keyParts b = .ok p ∧ KeyPart.nan ∉ p :=
    Value.sameKey_iff
  rw [hsame]
  cases a with
  | text s =>
    cases b with
    | text t => simp [Value.keyParts, eq_comm]
    | int n => simp [Value.keyParts]
    | _ => exact hb.elim
  | int m =>
    cases b with
    | text t => simp [Value.keyParts]
    | int n => simp [Value.keyParts, eq_comm]
    | _ => exact hb.elim
  | _ => exact ha.elim

/-- The id comes back from its cell: it does not look like a missing value, and does not break. -/
def ComesBack (id : Value) : Prop := Csv.isMissing (cellText id) = false ∧ Whole (cellText id)

instance (id : Value) : Decidable (ComesBack id) := inferInstanceAs (Decidable (_ ∧ _))

theorem cellText_int (n : Nat) : cellText (.int n) = Number.showNat n := Number.showInt_natCast n

theorem showNat_subset (n : Nat) : (Number.showNat n).toList ⊆ Number.numeralChars := by
  rw [Number.showNat, String.toList_ofList]
  exact Number.natChars_subset n

/-- **A whole number comes back from its cell.** -/
theorem comesBack_int (n : Nat) : ComesBack (.int n) := by
  unfold ComesBack
  rw [cellText_int]
  refine ⟨Bool.eq_false_iff.2 fun hmissing => ?_, .inr fun hreturn => ?_⟩
  · have hdigits := (missing_facts hmissing).2.2.1
    rw [Number.isAllDigits_showNat] at hdigits
    cases hdigits
  · exact (isPlain_of_mem_numeralChars _ (showNat_subset n hreturn)).2.2.2 rfl

/-- **The text of an id** is read as the id, and the id can be filed under. -/
theorem readName_cellText {id : Value} (h : HasName intIds id) :
    Token.readName intIds (cellText id) = .ok id ∧ Key.check id = .ok () := by
  rcases h.cases with ⟨name, -, hread, rfl⟩ | ⟨n, rfl, hn, rfl⟩
  · exact ⟨hread, rfl⟩
  · rw [cellText_int]
    refine ⟨?_, rfl⟩
    simp only [Token.readName, Number.isAllDigits_showNat, Bool.and_self, ↓reduceIte,
      Number.natural_showNat hn]

theorem mapM_int?_isSome {vs : List Value} (h : ∀ v ∈ vs, ∃ n, v = .int n) :
    vs.mapM int? ≠ none := by
  induction vs with
  | nil => exact nofun
  | cons v vs ih =>
    obtain ⟨⟨n, rfl⟩, hvs⟩ := List.forall_mem_cons.1 h
    obtain ⟨ns, hns⟩ := Option.ne_none_iff_exists'.1 (ih hvs)
    rw [List.mapM_cons, hns]
    exact nofun

/-- A column in which everything is a text or a whole number is no column of doubles. -/
theorem content_ne_real {vs : List Value}
    (h : ∀ v ∈ vs, (∃ s, v = .text s) ∨ ∃ n, v = .int n) : content vs ≠ .real := by
  unfold content
  split
  · split
    · exact nofun
    · split <;> exact nofun
  · rename_i hnone
    split
    · exact nofun
    · split
      · rename_i hnumbers
        simp only [Bool.and_eq_true, List.all_eq_true] at hnumbers
        refine absurd hnone (mapM_int?_isSome fun v hv => (h v hv).resolve_left ?_)
        rintro ⟨s, rfl⟩
        exact absurd (hnumbers.1.1 _ hv) Bool.false_ne_true
      · exact nofun

/-- Ids stay what they are in a column. -/
theorem column_ids {ids : List Value} (h : ∀ id ∈ ids, HasName intIds id) : column ids = ids := by
  have hreal : content ids ≠ .real := by
    refine content_ne_real fun id hid => (h id hid).cases.imp ?_ ?_
    · exact fun ⟨name, _, _, hname⟩ => ⟨name, hname⟩
    · exact fun ⟨n, _, _, hn⟩ => ⟨n, hn⟩
  have hsettle : ∀ v, settle (content ids) v = v := by
    intro v
    unfold settle
    split
    · contradiction
    · contradiction
    · rfl
  exact (List.map_congr_left fun v _ => hsettle v).trans (List.map_id _)

theorem column_floats (ws : List Float) : column (ws.map .float) = ws.map .float := by
  unfold column
  rw [List.map_map]
  refine List.map_congr_left fun w _ => ?_
  cases content (ws.map .float) <;> rfl

/-! ## The rows of a model -/

/-- The rows that a model is written as. -/
def rowsOf (m : WeightMap Value Float) : List (String × String) :=
  m.entries.map fun e => (cellText e.1, Number.showFloat e.2)

/-- The model has ids of names, and weights that are finite and read back. -/
structure Writable (intIds : Bool) (m : WeightMap Value Float) : Prop where
  ids : ∀ id ∈ m.keys, HasName intIds id
  finite : ∀ e ∈ m.entries, NumberSystem.isFinite e.2 = true
  back : ∀ e ∈ m.entries, ReadsBack (.real e.2)

variable {m : WeightMap Value Float}

/-- **The text of a model** is the file of its rows. -/
theorem written_eq_fileOf (hm : Writable intIds m) :
    written (m.entries.map fun e => (e.1, .float e.2)) = fileOf (rowsOf m) := by
  have hids : column ((m.entries.map fun e => (e.1, Value.float e.2)).map Prod.fst) = m.keys := by
    rw [List.map_map]
    exact column_ids hm.ids
  have hweights : column ((m.entries.map fun e => (e.1, Value.float e.2)).map Prod.snd) =
      m.entries.map fun e => Value.float e.2 := by
    rw [List.map_map]
    have := column_floats (m.entries.map Prod.snd)
    rw [List.map_map] at this
    exact this
  have htext : ∀ e ∈ m.entries, cellText (.float e.2) = Number.showFloat e.2 := by
    intro e he
    rw [cellText, Number.isNaN_of_isFinite (hm.finite e he), if_neg Bool.false_ne_true]
  rw [written, hids, hweights, fileOf, List.map_cons, headerRow]
  simp only [WeightMap.keys, List.zip_map', rowsOf, List.map_map]
  refine congrArg (fun rows => String.join (writtenRow featureColumn weightColumn :: rows)) ?_
  exact List.map_congr_left fun e he => by
    simp only [Function.comp_apply, htext e he]

theorem Writable.rows (hm : Writable intIds m) : ∀ r ∈ rowsOf m, IsWeightText r.2 := by
  intro r hr
  obtain ⟨e, he, rfl⟩ := List.mem_map.1 hr
  exact isWeightText_showFloat (hm.finite e he) (hm.back e he)

/-- **Loading the text of a model** adds up what the records of its rows say. -/
theorem ofText_written (hm : Writable intIds m) :
    ofText path intIds (written (m.entries.map fun e => (e.1, .float e.2))) =
      addRows path intIds 0 .empty ((recordsOf (rowsOf m)).map rowOf) := by
  rw [written_eq_fileOf hm]
  exact ofText_fileOf hm.rows

/-! ## Ids that come back -/

/-- A weight as it is added to zero. -/
def added (w : Float) : Float := NumberSystem.add NumberSystem.zero w

/-- Entries under new ids are added to zero. -/
theorem addRows_entries {entries : List (Value × Float)} (acc : WeightMap Value Operand)
    (hids : ∀ e ∈ entries, HasName intIds e.1)
    (hdistinct : (acc.keys ++ entries.map Prod.fst).Pairwise fun a b => Key.same a b = false)
    (row : Nat) :
    addRows path intIds row acc (entries.map fun e => (.text (cellText e.1), .float e.2)) =
      .ok ⟨acc.entries ++ entries.map fun e => (e.1, .real (added e.2))⟩ := by
  induction entries generalizing acc row with
  | nil => simp [addRows]
  | cons e entries ih =>
    obtain ⟨hid, hids⟩ := List.forall_mem_cons.1 hids
    obtain ⟨hread, hkey⟩ := readName_cellText hid
    have hof : idOf path intIds row (.text (cellText e.1)) = .ok e.1 := by
      change (Token.readName intIds (cellText e.1)).mapError _ = _
      rw [hread]
      rfl
    have hweight : weightOf (.float e.2) = .ok e.2 := rfl
    have hnew : ∀ a ∈ acc.entries, Key.same a.1 e.1 = false := fun a ha =>
      (List.pairwise_append.1 hdistinct).2.2 a.1 (List.mem_map_of_mem ha) e.1 List.mem_cons_self
    have hkeys : (⟨acc.entries ++ [(e.1, .real (added e.2))]⟩ : WeightMap Value Operand).keys =
        acc.keys ++ [e.1] := by
      simp [WeightMap.keys]
    have hrest := ih ⟨acc.entries ++ [(e.1, .real (added e.2))]⟩ hids
      (by rw [hkeys, List.append_assoc]; exact hdistinct) (row + 1)
    rw [List.map_cons, addRows, hof, ok_bind, hweight, ok_bind, WeightMap.add_of_new hkey hnew]
    exact hrest.trans (by simp)

/-- **Ids that come back** bring the weights back, each of them added to zero. -/
theorem ofText_written_eq (hm : Writable intIds m) (hdistinct : m.DistinctKeys)
    (hback : ∀ id ∈ m.keys, ComesBack id) :
    ofText path intIds (written (m.entries.map fun e => (e.1, .float e.2))) =
      .ok (m.map fun w => .real (added w)) := by
  have hrows : (recordsOf (rowsOf m)).map rowOf =
      m.entries.map fun e => (.text (cellText e.1), .float e.2) := by
    have hrecords : recordsOf (rowsOf m) =
        m.entries.map fun e => [cellText e.1, Number.showFloat e.2] := by
      rw [recordsOf, rowsOf, List.flatMap_map, List.map_eq_flatMap]
      exact List.flatMap_congr fun e he =>
        rowRecords_of_whole (hback e.1 (List.mem_map_of_mem he)).2 _
    rw [hrecords, List.map_map]
    refine List.map_congr_left fun e he => ?_
    have hmissing := (hback e.1 (List.mem_map_of_mem he)).1
    change (textCell (cellText e.1), numeralCell (Number.showFloat e.2)) = _
    rw [numeralCell_showFloat (hm.back e he), textCell, hmissing, if_neg Bool.false_ne_true]
  rw [ofText_written hm, hrows]
  exact addRows_entries .empty (fun e he => hm.ids e.1 (List.mem_map_of_mem he)) hdistinct 0

/-- **Ids that come back bring the model back**, if no weight is negative zero. -/
theorem ofText_written_of_comesBack (hm : Writable intIds m) (hdistinct : m.DistinctKeys)
    (hzero : ∀ e ∈ m.entries, ¬ Double.IsNegativeZero e.2) (hback : ∀ id ∈ m.keys, ComesBack id) :
    ofText path intIds (written (m.entries.map fun e => (e.1, .float e.2))) =
      .ok (m.map .real) := by
  rw [ofText_written_eq hm hdistinct hback]
  refine congrArg (fun entries => Except.ok (WeightMap.mk entries)) ?_
  refine List.map_congr_left fun e he => ?_
  have hadded : added e.2 = e.2 := Double.zero_add_of_not_isNegativeZero (hzero e he)
  exact congrArg (fun w => (e.1, Scalar.real w)) hadded

/-! ## Files -/

theorem load_of_save {w after : Files} {p : Path} {pairs : List (Value × Value)} {line : Log.Line}
    (h : save w p pairs = .ok (after, line)) :
    load after p intIds = ofText p.display intIds (written pairs) := by
  obtain ⟨w₁, -, h⟩ := bind_eq_ok_iff.1 h
  obtain ⟨w₂, hwrite, h⟩ := bind_eq_ok_iff.1 h
  obtain rfl : w₂ = after := congrArg Prod.fst (Except.ok.inj h)
  obtain ⟨hhas, hread⟩ := Files.read_of_write hwrite
  rw [load, hhas, hread, Bool.not_true, if_neg Bool.false_ne_true]

end Weights
end PassiveAggressive
