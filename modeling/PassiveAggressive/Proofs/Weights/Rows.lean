import Mathlib.Data.List.Basic
import PassiveAggressive.Proofs.Csv.Columns

/-!
# The rows of a weights file

What the rows of a weights file are read as.  A line feed, a comma or a quotation mark puts
an id in marks, and then it comes back as it was.  A carriage return does not, although it
ends a line: an id with one, and none of those, stands bare and breaks into the pieces
between its carriage returns (`rowRecords`).  Every piece but the last makes a record of
its own, with one cell, unless there are only blanks in it.

* `run_row`: how one row is read; `read_fileOf`: the table in a file of rows.
* `rowRecords_of_whole`, `piece_mem_rowRecords`: a row comes back, or a piece of its id
  comes back without a weight.
-/

namespace PassiveAggressive
namespace Weights

open Csv

/-- The character that ends a line and puts no cell in marks. -/
def lineReturn : Char := '\r'

/-- The cells of a line whose first cell breaks into the given pieces. -/
def brokenLine (second : String) : List (List Char) → List (List String)
  | [] => []
  | [piece] => [[String.ofList piece, second]]
  | piece :: pieces =>
    (if piece.all isMarginal then [] else [[String.ofList piece]]) ++ brokenLine second pieces

/-- The cells of the records that a row is read as. -/
def rowRecords (id second : String) : List (List String) :=
  if needsMarks id.toList then [[id, second]]
  else brokenLine second (id.toList.splitOn lineReturn)

/-- The id comes back from a file in one piece. -/
def Whole (id : String) : Prop := needsMarks id.toList = true ∨ lineReturn ∉ id.toList

instance (id : String) : Decidable (Whole id) := inferInstanceAs (Decidable (_ ∨ _))

/-- The part of an id in front of its first carriage return. -/
def firstPiece (id : String) : List Char := id.toList.takeWhile (· ≠ lineReturn)

/-! ## The cells of a row -/

theorem brokenLine_cons (second : String) (piece : List Char) {pieces : List (List Char)}
    (h : pieces ≠ []) :
    brokenLine second (piece :: pieces) =
      (if piece.all isMarginal then [] else [[String.ofList piece]]) ++
        brokenLine second pieces := by
  cases pieces with
  | nil => exact absurd rfl h
  | cons => rfl

theorem rowRecords_of_whole {id : String} (h : Whole id) (second : String) :
    rowRecords id second = [[id, second]] := by
  unfold rowRecords
  split
  · rfl
  · rename_i hmarks
    rw [List.splitOn_eq_singleton (h.resolve_left hmarks), brokenLine, String.ofList_toList]

/-- A bare id with a carriage return breaks, and its first piece is a record unless it is blank. -/
theorem piece_mem_rowRecords {id : String} (h : ¬ Whole id)
    (hblank : (firstPiece id).all isMarginal = false) (second : String) :
    [String.ofList (firstPiece id)] ∈ rowRecords id second := by
  obtain ⟨hmarks, hreturn⟩ := not_or.1 h
  obtain ⟨front, back, hid, hfront⟩ := List.eq_append_cons_of_mem (not_not.1 hreturn)
  have hpiece : firstPiece id = front := by
    have hall : ∀ c ∈ front, decide (c ≠ lineReturn) = true := fun c hc =>
      decide_eq_true fun h => hfront (h ▸ hc)
    rw [firstPiece, hid, List.takeWhile_append_of_pos hall]
    simp
  rw [hpiece] at hblank ⊢
  rw [rowRecords, if_neg hmarks, hid, List.splitOn_append_cons_self_of_not_mem hfront,
    brokenLine_cons _ _ (List.splitOn_ne_nil _ _), hblank]
  exact List.mem_append_left _ (List.mem_singleton_self _)

example : rowRecords "a\rb" "4.9" = [["a"], ["b", "4.9"]] := by decide

/-- A record of a line has one cell, or two of which the second is that of the line. -/
theorem of_mem_brokenLine {second : String} {pieces : List (List Char)} {cells : List String}
    (h : cells ∈ brokenLine second pieces) :
    (∃ cell, cells = [cell]) ∨ ∃ cell, cells = [cell, second] := by
  fun_induction brokenLine second pieces with
  | case1 => exact absurd h List.not_mem_nil
  | case2 piece => exact .inr ⟨_, List.mem_singleton.1 h⟩
  | case3 piece pieces hne ih =>
    rcases List.mem_append.1 h with h | h
    · split at h
      · exact absurd h List.not_mem_nil
      · exact .inl ⟨_, List.mem_singleton.1 h⟩
    · exact ih h

theorem of_mem_rowRecords {id second : String} {cells : List String}
    (h : cells ∈ rowRecords id second) :
    (∃ cell, cells = [cell]) ∨ ∃ cell, cells = [cell, second] := by
  unfold rowRecords at h
  split at h
  · exact .inr ⟨id, List.mem_singleton.1 h⟩
  · exact of_mem_brokenLine h

/-! ## Reading a row -/

/-- Without marks there is nothing in a cell that could end it, but carriage returns. -/
theorem isPlain_of_bare {cs : List Char} (hmarks : ¬ needsMarks cs = true) {c : Char} (hc : c ∈ cs)
    (hreturn : c ≠ lineReturn) : IsPlain c := by
  have hbare : ¬ (c = ',' ∨ c = Text.doubleMark ∨ c = '\n') := by
    intro h
    exact hmarks (List.any_eq_true.2 ⟨c, hc, by simpa [or_assoc] using h⟩)
  rw [not_or, not_or] at hbare
  exact ⟨hbare.1, hbare.2.1, hbare.2.2, hreturn⟩

/-- A bare cell is read piece by piece; the last piece and what follows make the last record. -/
theorem run_bare {second : String} (hsecond : ∀ c ∈ second.toList, IsPlain c) (cs : List Char)
    (hcs : ∀ c ∈ cs, c ≠ lineReturn → IsPlain c) (lines : Nat) (rs : List Record)
    (returned : Bool) :
    ∃ lines' new, (Progress.between lines rs returned).run (cs ++ (',' :: second.toList ++ ['\n'])) =
        .between lines' (new ++ rs) false ∧
      new.reverse.map Record.cells = brokenLine second (cs.splitOn lineReturn) := by
  by_cases hreturn : lineReturn ∈ cs
  · -- up to the first carriage return there is one record, or none
    obtain ⟨front, back, hcut, hfront⟩ := List.eq_append_cons_of_mem hreturn
    have hshorter : back.length < cs.length := by
      rw [hcut, List.length_append, List.length_cons]
      omega
    obtain ⟨hplain, hrest⟩ := List.forall_mem_append.1 (hcut ▸ hcs)
    have hplain' : ∀ c ∈ front, IsPlain c := fun c hc => hplain c hc fun h => hfront (h ▸ hc)
    obtain ⟨lines', new, hrun, hnew⟩ := run_bare hsecond back
      (List.forall_mem_cons.1 hrest).2 (lines + 1)
      (if front.all isMarginal then rs else ⟨[String.ofList front], lines + 1⟩ :: rs) true
    have hsplit : cs ++ (',' :: second.toList ++ ['\n']) =
        (front ++ ['\r']) ++ (back ++ (',' :: second.toList ++ ['\n'])) := by
      simp [hcut, lineReturn]
    rw [hsplit, hcut, Progress.run_append, Progress.run_broken _ _ _ hplain', hrun,
      List.splitOn_append_cons_self_of_not_mem hfront,
      brokenLine_cons _ _ (List.splitOn_ne_nil _ _), ← hnew]
    cases front.all isMarginal with
    | true => exact ⟨lines', new, rfl, rfl⟩
    | false =>
      refine ⟨lines', new ++ [⟨[String.ofList front], lines + 1⟩], ?_, ?_⟩
      · simp
      · simp
  · -- without one the cell is plain
    have hplain : ∀ c ∈ cs, IsPlain c := fun c hc => hcs c hc fun h => hreturn (h ▸ hc)
    have hstart : (Progress.between lines rs returned).place ≠ .quoted := nofun
    refine ⟨lines + 1, [⟨[String.ofList cs, second], lines + 1⟩], ?_, ?_⟩
    · rw [Progress.run_append, Progress.run_plain hstart hplain,
        Progress.run_second (Place.along_ne_quoted hstart cs) rfl hsecond]
      simp [Progress.between]
    · rw [List.splitOn_eq_singleton hreturn]
      rfl
termination_by cs.length

/-- **A row is read as its records**, from the beginning of a line to the beginning of another. -/
theorem run_row {id second : String} (hsecond : ∀ c ∈ second.toList, IsPlain c) (lines : Nat)
    (rs : List Record) (returned : Bool) :
    ∃ lines' new, (Progress.between lines rs returned).run (writtenRow id second).toList =
        .between lines' (new ++ rs) false ∧
      new.reverse.map Record.cells = rowRecords id second := by
  have hbare : writtenCell second = second := by
    refine if_neg fun hmarks => ?_
    obtain ⟨c, hc, h⟩ := List.any_eq_true.1 hmarks
    obtain ⟨hcomma, hmark, hfeed, -⟩ := hsecond c hc
    simp [hcomma, hmark, hfeed] at h
  have hrow : (writtenRow id second).toList =
      (writtenCell id).toList ++ (',' :: second.toList ++ ['\n']) := by
    rw [writtenRow, hbare]
    simp
  rw [hrow, writtenCell, rowRecords]
  by_cases hmarks : needsMarks id.toList = true
  · rw [if_pos hmarks, if_pos hmarks, String.toList_ofList]
    let p : Progress := ⟨.mark, id.toList.reverse, [], lines, rs, false⟩
    have hp : p.place ≠ .quoted := nofun
    have hcell : (Progress.between lines rs returned).run
        (Text.doubleMark :: doubled id.toList ++ [Text.doubleMark]) = p :=
      Progress.run_quoted (.inl rfl) [] lines rs returned id.toList
    refine ⟨lines + 1, [⟨[id, second], lines + 1⟩], ?_, rfl⟩
    rw [Progress.run_append, hcell, Progress.run_second hp rfl hsecond]
    simp [p]
  · rw [if_neg hmarks, if_neg hmarks]
    exact run_bare hsecond _ (fun c hc => isPlain_of_bare hmarks hc) lines rs returned

/-! ## Reading a file -/

/-- The cells of the records that rows are read as. -/
def recordsOf (rows : List (String × String)) : List (List String) :=
  rows.flatMap fun r => rowRecords r.1 r.2

/-- The text of the rows. -/
def textOf (rows : List (String × String)) : List Char :=
  rows.flatMap fun r => (writtenRow r.1 r.2).toList

/-- Every second cell is plain. -/
def Readable (rows : List (String × String)) : Prop := ∀ r ∈ rows, ∀ c ∈ r.2.toList, IsPlain c

/-- Rows are read as their records, one after the other. -/
theorem run_rows {rows : List (String × String)} (hrows : Readable rows) (lines : Nat)
    (rs : List Record) :
    ∃ lines' new, (Progress.between lines rs false).run (textOf rows) =
        .between lines' (new ++ rs) false ∧
      new.reverse.map Record.cells = recordsOf rows := by
  induction rows generalizing lines rs with
  | nil => exact ⟨lines, [], rfl, rfl⟩
  | cons r rows ih =>
    obtain ⟨hsecond, hrows⟩ := List.forall_mem_cons.1 hrows
    obtain ⟨lines₁, new₁, hrun₁, hnew₁⟩ := run_row hsecond lines rs false
    obtain ⟨lines₂, new₂, hrun₂, hnew₂⟩ := ih hrows lines₁ (new₁ ++ rs)
    refine ⟨lines₂, new₂ ++ new₁, ?_, ?_⟩
    · rw [textOf, List.flatMap_cons, Progress.run_append, hrun₁]
      exact hrun₂.trans (by rw [List.append_assoc])
    · rw [List.reverse_append, List.map_append, hnew₁, hnew₂]
      rfl

/-- The row above the rows of a file. -/
def headerRow : String × String := (featureColumn, weightColumn)

/-- The text of a file: the header and the rows. -/
def fileOf (rows : List (String × String)) : String :=
  String.join ((headerRow :: rows).map fun r => writtenRow r.1 r.2)

/-- The records of a file are its header and those of its rows. -/
theorem records_fileOf {rows : List (String × String)} (hrows : Readable rows) :
    ∃ header rs, records (fileOf rows).toList = (header :: rs, none) ∧
      header.cells = [featureColumn, weightColumn] ∧ rs.map Record.cells = recordsOf rows := by
  have hheader : ∀ c ∈ headerRow.2.toList, IsPlain c := by
    rw [← List.forall_iff_forall_mem]
    decide
  have hall : Readable (headerRow :: rows) := List.forall_mem_cons.2 ⟨hheader, hrows⟩
  obtain ⟨lines, new, hrun, hnew⟩ := run_rows hall 0 []
  have hrecords : records (fileOf rows).toList = (new.reverse, none) := by
    have htext : (fileOf rows).toList = textOf (headerRow :: rows) := by
      rw [fileOf, String.toList_join, List.flatMap_map]
      rfl
    have hstart : Progress.start = .between 0 [] false := rfl
    change (Progress.start.run _).finish = _
    rw [htext, hstart, hrun, List.append_nil]
    rfl
  rw [recordsOf, List.flatMap_cons, rowRecords_of_whole (by decide), List.singleton_append] at hnew
  obtain ⟨header, rs, hreverse, hheader, hrs⟩ := List.map_eq_cons_iff.1 hnew
  exact ⟨header, rs, hreverse ▸ hrecords, hheader, hrs⟩

/-- The two columns in records of at most two cells. -/
def tableOf (cells : List (List String)) : Table :=
  ⟨[(featureColumn, textColumn (cells.map fun r => r.getD 0 "")),
    (weightColumn, Csv.column (cells.map fun r => r.getD 1 ""))]⟩

/-- **The table in a file of rows** has the columns that were written, with the cells of the records
that the rows are read as. -/
theorem read_fileOf {rows : List (String × String)} (hrows : Readable rows) :
    Csv.read featureColumn (fileOf rows) = .ok (tableOf (recordsOf rows)) := by
  obtain ⟨header, rs, hrecords, hheader, hcells⟩ := records_fileOf hrows
  have hmark : withoutMark (fileOf rows).toList = (fileOf rows).toList := by
    rw [fileOf, String.toList_join, List.map_cons, List.flatMap_cons]
    rfl
  have hshort : ∀ r ∈ rs, r.cells.length ≤ 2 := by
    intro r hr
    have hmem : r.cells ∈ recordsOf rows := hcells ▸ List.mem_map_of_mem hr
    obtain ⟨row, -, hmem⟩ := List.mem_flatMap.1 hmem
    rcases of_mem_rowRecords hmem with ⟨cell, h⟩ | ⟨cell, h⟩ <;> simp [h]
  have hwidth : width header.cells.length rs = 2 := by
    rw [hheader]
    cases rs with
    | nil => rfl
    | cons r rs => exact max_eq_left (hshort r List.mem_cons_self)
  have hcolumn : ∀ i, cellsAt i (rs.map fun r => fill 2 r.cells) =
      (recordsOf rows).map fun r => r.getD i "" := by
    intro i
    rw [cellsAt, ← hcells, List.map_map, List.map_map]
    exact List.map_congr_left fun r _ => getD_fill 2 r.cells i
  refine read_eq_ok_iff.2 ⟨header, rs, hmark.symm ▸ hrecords,
    fun r hr => hwidth.symm ▸ hshort r hr, Eq.symm ?_⟩
  rw [ofRecords, hwidth, hheader]
  have hnames : [featureColumn, weightColumn].zip (columnNames [featureColumn, weightColumn]) =
      [(featureColumn, featureColumn), (weightColumn, weightColumn)] := by
    decide +kernel
  have hother : decide (weightColumn = featureColumn) = false := by decide
  simp only [hnames, columns, hcolumn, hother, decide_true, Bool.or_self, Bool.false_eq_true,
    ↓reduceIte]
  rfl

end Weights
end PassiveAggressive
