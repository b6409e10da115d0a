import PassiveAggressive.Example.File
import PassiveAggressive.Proofs.Csv.Columns
import PassiveAggressive.Proofs.Csv.Numbers
import PassiveAggressive.Proofs.Example.Dropping

/-!
# Rows by themselves

A row of a file of examples is judged by itself, but for the number in its target cell, which
depends on the cells above and below.  So a file gives what its rows give as files of their own,
one after the other, unless the target of a row that is kept as a file of its own is one of
those that `Csv.numberAmong_eq_alone` leaves out (`load_eq_flatten_iff`).

* A truth value that loses its number among other cells takes its row with it.
* A negative zero that gains its sign keeps its row, and the target is another double, though the
  same number.
-/

namespace PassiveAggressive

open Csv

/-! ## Lists from which items are dropped -/

theorem length_filterMap_le {α β : Type} {f g : α → Option β} {l : List α}
    (h : ∀ a ∈ l, g a = none → f a = none) :
    (l.filterMap f).length ≤ (l.filterMap g).length := by
  induction l with
  | nil => simp
  | cons a l ih =>
    obtain ⟨ha, hl⟩ := List.forall_mem_cons.1 h
    have hrest := ih hl
    cases hg : g a with
    | none => simpa [List.filterMap_cons, hg, ha hg] using hrest
    | some y => cases hf : f a <;> simp [hg, hf] <;> omega

/-- Where one reading drops all that another does, the two give related items exactly if they do so
one by one. -/
theorem forall₂_filterMap_iff {α β : Type} {R : β → β → Prop} {f g : α → Option β} {l : List α}
    (h : ∀ a ∈ l, g a = none → f a = none) :
    List.Forall₂ R (l.filterMap f) (l.filterMap g) ↔ ∀ a ∈ l, Option.Rel R (f a) (g a) := by
  induction l with
  | nil => simp
  | cons a l ih =>
    obtain ⟨ha, hl⟩ := List.forall_mem_cons.1 h
    rw [List.forall_mem_cons, ← ih hl, List.filterMap_cons, List.filterMap_cons]
    cases hg : g a with
    | none => simp [ha hg]
    | some y =>
      cases hf : f a with
      | some x => simp
      | none =>
        refine iff_of_false (fun hboth => ?_) (by simp)
        have hlength : (l.filterMap f).length = (l.filterMap g).length + 1 := by
          simpa using hboth.length_eq
        have hle := length_filterMap_le hl
        omega

/-! ## Rows -/

/-- The same number: equal doubles, or two zeros. -/
def Number.Same (x y : Float) : Prop :=
  x = y ∨ ∃ negative negative', x = zero negative ∧ y = zero negative'

/-- The same features, and the same number for the target. -/
def SameNumbers (x y : ReadExample) : Prop := x.1 = y.1 ∧ Number.Same x.2 y.2

theorem SameNumbers.refl (x : ReadExample) : SameNumbers x x := ⟨rfl, .inl rfl⟩

namespace Reading

variable {layout : TableLayout} {cell : Value} {target target' : Float} {x : ReadExample}

theorem row_of_isFinite (hdelimiter : layout.delimiter ≠ "") (hcell : cell.HoldsTexts)
    (h : row layout cell target = .ok x) :
    target.isFinite = true ∧ x.2 = target ∧
      ∀ target' : Float, target'.isFinite = true →
        row layout cell target' = .ok (x.1, target') := by
  obtain ⟨hread, hsome, hdistinct, hvalues, htarget, hfinite⟩ :=
    (row_eq_ok_iff hdelimiter hcell).1 h
  exact ⟨hfinite, htarget, fun _ hfinite' => (row_eq_ok_iff hdelimiter hcell).2
    ⟨hread, hsome, hdistinct, hvalues, rfl, hfinite'⟩⟩

theorem toOption_row_nan (hdelimiter : layout.delimiter ≠ "") (hcell : cell.HoldsTexts) :
    (row layout cell Number.nan).toOption = none := by
  cases hrow : row layout cell Number.nan with
  | error e => rfl
  | ok x =>
    have hfinite := (row_of_isFinite hdelimiter hcell hrow).1
    exact absurd hfinite (by decide +kernel)

theorem toOption_row_of_isFinite (hdelimiter : layout.delimiter ≠ "") (hcell : cell.HoldsTexts)
    (hfinite : target.isFinite = true) (hfinite' : target'.isFinite = true) :
    (row layout cell target').toOption =
      (row layout cell target).toOption.map fun x => (x.1, target') := by
  cases hrow : row layout cell target with
  | ok x => rw [(row_of_isFinite hdelimiter hcell hrow).2.2 _ hfinite']; rfl
  | error e =>
    cases hrow' : row layout cell target' with
    | error e' => rfl
    | ok x =>
      rw [(row_of_isFinite hdelimiter hcell hrow').2.2 _ hfinite] at hrow
      cases hrow

/-- The example in a row with a target cell among other target cells, if it gives one. -/
def exampleAmong (layout : TableLayout) (pinned : Bool) (cells : List String) (value : Value)
    (cell : String) : Option ReadExample :=
  (row layout value (numberAmong pinned cells cell)).toOption

/-- How a row among others compares with the same row by itself. -/
structure Compares (layout : TableLayout) (pinned : Bool) (cells : List String) (value : Value)
    (cell : String) : Prop where
  dropped : exampleAmong layout pinned [cell] value cell = none →
    exampleAmong layout pinned cells value cell = none
  equal : exampleAmong layout pinned cells value cell =
      exampleAmong layout pinned [cell] value cell ↔
    (exampleAmong layout pinned [cell] value cell ≠ none →
      ¬LosesTruth pinned cells cell ∧ ¬GainsSign cells cell)
  same : Option.Rel SameNumbers (exampleAmong layout pinned cells value cell)
      (exampleAmong layout pinned [cell] value cell) ↔
    (exampleAmong layout pinned [cell] value cell ≠ none → ¬LosesTruth pinned cells cell)

variable {value : Value} {pinned : Bool} {cells : List String} {target : String}

theorem compares_of_losesTruth (hdelimiter : layout.delimiter ≠ "") (hvalue : value.HoldsTexts)
    (htarget : target ∈ cells) (h : LosesTruth pinned cells target) :
    Compares layout pinned cells value target := by
  have hdropped : exampleAmong layout pinned cells value target = none := by
    rw [exampleAmong, (numberAmong_of_losesTruth h htarget).1]
    exact toOption_row_nan hdelimiter hvalue
  refine ⟨fun _ => hdropped, ?_, ?_⟩
  · rw [hdropped]
    simp [h, eq_comm]
  · rw [hdropped]
    cases exampleAmong layout pinned [target] value target <;> simp [h]

theorem compares_of_gainsSign (hdelimiter : layout.delimiter ≠ "") (hvalue : value.HoldsTexts)
    (htruth : ¬LosesTruth pinned cells target) (h : GainsSign cells target) :
    Compares layout pinned cells value target := by
  obtain ⟨hamong, halone⟩ := numberAmong_of_gainsSign pinned h
  have hsigned : exampleAmong layout pinned cells value target =
      (exampleAmong layout pinned [target] value target).map fun x => (x.1, Number.zero true) := by
    rw [exampleAmong, exampleAmong, hamong, halone]
    exact toOption_row_of_isFinite hdelimiter hvalue (by decide +kernel) (by decide +kernel)
  cases hrow : exampleAmong layout pinned [target] value target with
  | none =>
    rw [hrow, Option.map_none] at hsigned
    constructor <;> simp [hrow, hsigned]
  | some x =>
    rw [hrow, Option.map_some] at hsigned
    have hzero : x.2 = Number.zero false := by
      rw [exampleAmong, halone] at hrow
      cases hrow' : row layout value (Number.zero false) with
      | error e => simp [hrow', Except.toOption] at hrow
      | ok y =>
        obtain rfl : y = x := by simpa [hrow', Except.toOption] using hrow
        exact (row_of_isFinite hdelimiter hvalue hrow').2.1
    have hne : (x.1, Number.zero true) ≠ x := by
      intro heq
      have hsame : Number.zero true = Number.zero false := (congrArg Prod.snd heq).trans hzero
      exact absurd hsame (by decide +kernel)
    have hsame : SameNumbers (x.1, Number.zero true) x := ⟨rfl, .inr ⟨true, false, rfl, hzero⟩⟩
    constructor <;> simp [hrow, hsigned, hne, hsame, htruth, h]

/-- **A row among others** is dropped if it is dropped by itself, and otherwise it differs in the
two cases only where the number in its target cell does. -/
theorem compares (hdelimiter : layout.delimiter ≠ "") (hvalue : value.HoldsTexts)
    (htarget : target ∈ cells) : Compares layout pinned cells value target := by
  by_cases htruth : LosesTruth pinned cells target
  · exact compares_of_losesTruth hdelimiter hvalue htarget htruth
  by_cases hsign : GainsSign cells target
  · exact compares_of_gainsSign hdelimiter hvalue htruth hsign
  have heq : exampleAmong layout pinned cells value target =
      exampleAmong layout pinned [target] value target := by
    rw [exampleAmong, exampleAmong, numberAmong_eq_alone htarget htruth hsign]
  cases hrow : exampleAmong layout pinned [target] value target with
  | none => constructor <;> simp [heq, hrow]
  | some x => constructor <;> simp [heq, hrow, htruth, hsign, SameNumbers.refl]

end Reading

/-! ## Files -/

namespace Examples

open Reading

variable {w : Files} {layout : TableLayout} {header : List String}

/-- What a file gives of a row. -/
def exampleOf (layout : TableLayout) (header : List String) (rows : List (List String))
    (row : List String) : Option ReadExample :=
  exampleAmong layout (isPinned layout.featuresColumn header layout.targetColumn)
    (rows.map (cellUnder header layout.targetColumn))
    (textCell (cellUnder header layout.featuresColumn row))
    (cellUnder header layout.targetColumn row)

theorem holdsTexts_textCell (cell : String) : (textCell cell).HoldsTexts := by
  unfold textCell
  split <;> trivial

/-- A file of full rows gives the examples in its rows. -/
theorem load_of_isFile {p : Path} {text : String} {rows : List (List String)}
    (hdrop : layout.dropInvalid = true) (hids : layout.intIds = false)
    (hdelimiter : layout.delimiter ≠ "") (hfeatures : layout.featuresColumn ∈ columnNames header)
    (htarget : layout.targetColumn ∈ columnNames header) (hread : w.read p = .ok text)
    (hfile : IsFile text header rows) :
    (load w layout p).2 = .ok (rows.filterMap (exampleOf layout header rows)) := by
  have hhas := Files.has_of_read hread
  obtain ⟨t, ht, hcolumns⟩ := column?_of_read layout.featuresColumn hfile
  have hcells : t.column? layout.featuresColumn =
      some (rows.map fun row => textCell (cellUnder header layout.featuresColumn row)) := by
    rw [hcolumns _ hfeatures]
    simp [columnUnder, isPinned, textColumn, textCell, Function.comp_def]
  have hnumbers := numbers_eq_map (isPinned layout.featuresColumn header layout.targetColumn)
    (rows.map (cellUnder header layout.targetColumn))
  let judged (row : List String) : Value × Float :=
    (textCell (cellUnder header layout.featuresColumn row),
      numberAmong (isPinned layout.featuresColumn header layout.targetColumn)
        (rows.map (cellUnder header layout.targetColumn))
        (cellUnder header layout.targetColumn row))
  have htable : ofTable layout t = Reading.rows layout 0 0 (rows.map judged) := by
    rw [ofTable_of_numbers hcells (hcolumns _ htarget) hnumbers, List.map_map, List.zip_map']
    rfl
  have hcomplaints : ∀ q ∈ refused layout 0 (rows.map judged), q.2.isComplaint = true := by
    refine complaint_of_mem_refused fun r hr e he => ?_
    obtain ⟨row, -, rfl⟩ := List.mem_map.1 hr
    exact complaint_of_row hids hdelimiter (holdsTexts_textCell _) he
  have haccepted : accepted layout (rows.map judged) =
      rows.filterMap (exampleOf layout header rows) := by
    rw [accepted, List.filterMap_map]
    rfl
  simp only [load, hhas, hread, ofText, ht, htable, rows_dropping hdrop 0 0 hcomplaints,
    haccepted, Bool.not_true, Bool.false_eq_true, if_false]

/-- Three rows with a target that is no number, and each of them as a file of its own. -/
def numbered : Files :=
  .ofList [("e.csv", "features,target\na:1,2\nb:1,0.5\nc:1,much\n"),
    ("e0.csv", "features,target\na:1,2\n"), ("e1.csv", "features,target\nb:1,0.5\n"),
    ("e2.csv", "features,target\nc:1,much\n")]

/-- A truth value above a word, and each of the two rows as a file of its own. -/
def mixed : Files :=
  .ofList [("e.csv", "features,target\na:1,True\nb:1,abc\n"),
    ("e0.csv", "features,target\na:1,True\n"), ("e1.csv", "features,target\nb:1,abc\n")]

end Examples
end PassiveAggressive
