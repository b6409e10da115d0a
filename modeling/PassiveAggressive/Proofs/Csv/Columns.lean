import Mathlib.Data.List.Forall2
import PassiveAggressive.Csv.Reader
import PassiveAggressive.Proofs.Csv.Progress

/-!
# Columns under their names

A table can be read from a file unless there is no header, a quotation is left open, or a row is
too long (`read_eq_ok_iff`).  The column under a name then holds the cells at one position of the
rows, which depends on the header and on how many cells of a row are its labels
(`column?_of_isTable`).

Where every row has as many cells as the header, no row has labels and none is
filled up, and the position depends on the header alone (`column?_of_read`).  Whether the column is
kept as texts depends on the header alone, too; what else it is read as depends on all of its cells.
-/

namespace PassiveAggressive
namespace Csv

/-! ## Files of full rows -/

/-- The text is a table file with a header and full rows. -/
structure IsFile (text : String) (header : List String) (rows : List (List String)) : Prop where
  records : ∃ h rs, Csv.records (withoutMark text.toList) = (h :: rs, none) ∧
    h.cells = header ∧ rs.map Record.cells = rows
  full : ∀ r ∈ rows, r.length = header.length

theorem exists_records_iff {cs : List Char} {header : List String} {rows : List (List String)} :
    (∃ h rs, Csv.records cs = (h :: rs, none) ∧ h.cells = header ∧ rs.map Record.cells = rows) ↔
      (Csv.records cs).2.isNone = true ∧
        (Csv.records cs).1.map Record.cells = header :: rows := by
  constructor
  · rintro ⟨h, rs, hrecords, rfl, rfl⟩
    rw [hrecords]
    exact ⟨rfl, rfl⟩
  · rintro ⟨hnone, hcells⟩
    obtain ⟨h, rs, hrecords, hheader, hrows⟩ := List.map_eq_cons_iff.1 hcells
    exact ⟨h, rs, Prod.ext hrecords (Option.isNone_iff_eq_none.1 hnone), hheader, hrows⟩

theorem isFile_iff {text : String} {header : List String} {rows : List (List String)} :
    IsFile text header rows ↔ (Csv.records (withoutMark text.toList)).2.isNone = true ∧
      (Csv.records (withoutMark text.toList)).1.map Record.cells = header :: rows ∧
      ∀ r ∈ rows, r.length = header.length := by
  rw [← and_assoc, ← exists_records_iff]
  exact ⟨fun h => ⟨h.records, h.full⟩, fun h => ⟨h.1, h.2⟩⟩

instance (text : String) (header : List String) (rows : List (List String)) :
    Decidable (IsFile text header rows) :=
  decidable_of_iff _ isFile_iff.symm

/-! ## Cells under a name -/

/-- The position of the column with a name. -/
def position (header : List String) (name : String) : Nat := (columnNames header).idxOf name

/-- The cell of a row under a name. -/
def cellUnder (header : List String) (name : String) (row : List String) : String :=
  row.getD (position header name) ""

/-- The column under a name is kept as texts: it has that name, or the header gives it that
name. -/
def isPinned (textName : String) (header : List String) (name : String) : Bool :=
  header.getD (position header name) "" = textName || name = textName

/-- The values of the column under a name. -/
def columnUnder (textName : String) (header : List String) (name : String)
    (rows : List (List String)) : List Value :=
  let cells := rows.map (cellUnder header name)
  if isPinned textName header name then textColumn cells else column cells

/-! ## Names -/

@[simp] theorem length_named (i : Nat) (names : List String) :
    (named i names).length = names.length := by
  induction names generalizing i with
  | nil => rfl
  | cons name names ih => rw [named, List.length_cons, ih, List.length_cons]

@[simp] theorem length_distinctFrom (header before names : List String) :
    (distinctFrom header before names).length = names.length := by
  induction names generalizing before with
  | nil => rfl
  | cons name names ih => rw [distinctFrom, List.length_cons, ih, List.length_cons]

@[simp] theorem length_columnNames (header : List String) :
    (columnNames header).length = header.length := by
  simp [columnNames]

theorem exists_numbered_eq (taken : List String) (name : String) (n fuel : Nat) :
    ∃ tail, numbered taken name n fuel = name ++ tail := by
  induction fuel generalizing n with
  | zero => exact ⟨_, String.append_assoc⟩
  | succ fuel ih =>
    rw [numbered]
    split
    · exact ih (n + 1)
    · exact ⟨_, String.append_assoc⟩

theorem forall₂_distinctFrom_named (header before : List String) (i : Nat) (names : List String) :
    List.Forall₂ (fun given name => ∃ tail, name = given ++ tail) names
      (distinctFrom header before (named i names)) := by
  induction names generalizing before i with
  | nil => exact .nil
  | cons given names ih =>
    have hnamed : ∃ tail, (if given.isEmpty then positionName i else given) = given ++ tail := by
      split
      · rename_i hempty
        exact ⟨positionName i, by rw [String.isEmpty_iff.1 hempty, String.empty_append]⟩
      · exact ⟨"", String.append_empty.symm⟩
    obtain ⟨tail, htail⟩ := hnamed
    rw [named, distinctFrom]
    refine .cons ?_ (ih _ _)
    rw [htail]
    split
    · obtain ⟨tail', htail'⟩ := exists_numbered_eq (before ++ header) (given ++ tail) 1
        (before.length + header.length)
      exact ⟨tail ++ tail', by rw [htail', String.append_assoc]⟩
    · exact ⟨tail, rfl⟩

/-- **The name of a column begins** with what stands in the header. -/
theorem forall₂_columnNames (header : List String) :
    List.Forall₂ (fun given name => ∃ tail, name = given ++ tail) header (columnNames header) :=
  forall₂_distinctFrom_named _ _ _ _

/-- A column is not kept as texts if its name does not begin with that of the column of texts. -/
theorem isPinned_eq_false {textName name : String} {header : List String}
    (hname : name ∈ columnNames header) (hbegins : ∀ tail, name ≠ textName ++ tail) :
    isPinned textName header name = false := by
  have hposition : position header name < (columnNames header).length := List.idxOf_lt_length_iff.2 hname
  have hheader : position header name < header.length := length_columnNames header ▸ hposition
  obtain ⟨tail, htail⟩ := (forall₂_columnNames header).get hheader hposition
  have hget : (columnNames header).get ⟨position header name, hposition⟩ = name :=
    List.idxOf_get hposition
  rw [hget] at htail
  rw [isPinned, Bool.or_eq_false_iff, decide_eq_false_iff_not, decide_eq_false_iff_not]
  refine ⟨fun hgiven => hbegins tail ?_, fun hsame => hbegins "" ?_⟩
  · rw [← hgiven, List.getD_eq_getElem?_getD, List.getElem?_eq_getElem hheader]
    exact htail
  · rw [hsame, String.append_empty]

/-! ## Columns -/

/-- The column with a name is the first that has it. -/
theorem lookup_columns (textName : String) (rows : List (List String)) (offset : Nat)
    {names : List (String × String)} {name : String} (h : name ∈ names.map Prod.snd) :
    (columns textName rows offset names).lookup name =
      let i := (names.map Prod.snd).idxOf name
      let cells := cellsAt (offset + i) rows
      some (if (names.map Prod.fst).getD i "" = textName || name = textName then textColumn cells
        else column cells) := by
  induction names generalizing offset with
  | nil => simp at h
  | cons entry names ih =>
    obtain ⟨given, n⟩ := entry
    rw [columns, List.lookup_cons]
    by_cases hn : name = n
    · subst hn
      simp
    · have hmem : name ∈ names.map Prod.snd := (List.mem_cons.1 h).resolve_left hn
      simp only [beq_false_of_ne hn, ih (offset + 1) hmem, List.map_cons,
        List.idxOf_cons_ne _ (Ne.symm hn), List.getD_cons_succ]
      rw [Nat.succ_eq_add_one, ← Nat.add_assoc, Nat.add_right_comm]

theorem lookup_columns_eq_none (textName : String) (rows : List (List String)) (offset : Nat)
    {names : List (String × String)} {name : String} (h : name ∉ names.map Prod.snd) :
    (columns textName rows offset names).lookup name = none := by
  induction names generalizing offset with
  | nil => rfl
  | cons entry names ih =>
    obtain ⟨given, n⟩ := entry
    rw [List.map_cons, List.mem_cons, not_or] at h
    rw [columns, List.lookup_cons, beq_false_of_ne h.1]
    exact ih (offset + 1) h.2

/-! ## Tables -/

/-- How many cells a row may have: as many as the header, or as the first row if that has more. -/
def rowLimit (header : List String) (rows : List (List String)) : Nat :=
  max header.length (rows.headD []).length

/-- The text is a table file: there is a header, no quotation is left open, and no row is too
long. -/
structure IsTable (text : String) (header : List String) (rows : List (List String)) : Prop where
  records : ∃ h rs, Csv.records (withoutMark text.toList) = (h :: rs, none) ∧
    h.cells = header ∧ rs.map Record.cells = rows
  short : ∀ r ∈ rows, r.length ≤ rowLimit header rows

theorem isTable_iff {text : String} {header : List String} {rows : List (List String)} :
    IsTable text header rows ↔ (Csv.records (withoutMark text.toList)).2.isNone = true ∧
      (Csv.records (withoutMark text.toList)).1.map Record.cells = header :: rows ∧
      ∀ r ∈ rows, r.length ≤ rowLimit header rows := by
  rw [← and_assoc, ← exists_records_iff]
  exact ⟨fun h => ⟨h.records, h.short⟩, fun h => ⟨h.1, h.2⟩⟩

instance (text : String) (header : List String) (rows : List (List String)) :
    Decidable (IsTable text header rows) :=
  decidable_of_iff _ isTable_iff.symm

theorem IsTable.unique {text : String} {header header' : List String}
    {rows rows' : List (List String)} (h : IsTable text header rows)
    (h' : IsTable text header' rows') : header = header' ∧ rows = rows' :=
  List.cons.inj ((isTable_iff.1 h).2.1.symm.trans (isTable_iff.1 h').2.1)

theorem IsFile.isTable {text : String} {header : List String} {rows : List (List String)}
    (h : IsFile text header rows) : IsTable text header rows :=
  ⟨h.records, fun r hr => (h.full r hr).trans_le (le_max_left _ _)⟩

/-- The cell of a row under a name, in a table whose rows may begin with labels. -/
def cellBelow (header : List String) (rows : List (List String)) (name : String)
    (row : List String) : String :=
  row.getD (rowLimit header rows - header.length + position header name) ""

theorem width_eq_rowLimit (header : List String) (rs : List Record) :
    width header.length rs = rowLimit header (rs.map Record.cells) := by
  cases rs with
  | nil => exact (Nat.max_zero _).symm
  | cons r rs => rfl

/-- **A table can be read** from the files that are one. -/
theorem read_eq_ok_iff {textName text : String} {t : Table} :
    Csv.read textName text = .ok t ↔
      ∃ h rs, Csv.records (withoutMark text.toList) = (h :: rs, none) ∧
        (∀ r ∈ rs, r.cells.length ≤ width h.cells.length rs) ∧ t = ofRecords textName h rs := by
  have hlong : ∀ {width : Nat} {rs : List Record}, tooLong? width rs = none ↔
      ∀ r ∈ rs, r.cells.length ≤ width := by
    intro width rs
    rw [tooLong?, Option.map_eq_none_iff, List.find?_eq_none]
    exact forall₂_congr fun r _ => by simp
  constructor
  · intro h
    unfold Csv.read at h
    rcases hrecords : Csv.records (withoutMark text.toList) with ⟨records, stopped⟩
    rw [hrecords] at h
    simp only at h
    split at h
    · cases h
    · rename_i header rs
      split at h
      · cases h
      · cases h
      · rename_i hnone
        exact ⟨header, rs, rfl, hlong.1 hnone, (Except.ok.inj h).symm⟩
  · rintro ⟨h, rs, hrecords, hshort, rfl⟩
    unfold Csv.read
    simp only [hrecords, hlong.2 hshort]

theorem getD_fill (width : Nat) (cells : List String) (i : Nat) :
    (fill width cells).getD i "" = cells.getD i "" := by
  simp only [fill, List.getD_eq_getElem?_getD, List.getElem?_append, List.getElem?_replicate]
  split
  · rfl
  · rename_i hlength
    rw [List.getElem?_eq_none (not_lt.1 hlength)]
    split <;> rfl

/-- The columns of a table are those under the names. -/
theorem column?_ofRecords (textName : String) (h : Record) (rs : List Record) (name : String) :
    (ofRecords textName h rs).column? name =
      if name ∈ columnNames h.cells then
        let rows := rs.map Record.cells
        let cells := rows.map (cellBelow h.cells rows name)
        some (if isPinned textName h.cells name then textColumn cells else column cells)
      else none := by
  have hnames : (h.cells.zip (columnNames h.cells)).map Prod.snd = columnNames h.cells :=
    List.map_snd_zip (by simp)
  have hgiven : (h.cells.zip (columnNames h.cells)).map Prod.fst = h.cells :=
    List.map_fst_zip (by simp)
  rw [Table.column?, ofRecords]
  split
  · rename_i hmem
    rw [lookup_columns textName _ _ (by rw [hnames]; exact hmem)]
    simp only [hnames, hgiven, cellsAt, List.map_map, Function.comp_def, getD_fill,
      width_eq_rowLimit]
    rfl
  · rename_i hmem
    exact lookup_columns_eq_none textName _ _ (by rw [hnames]; exact hmem)

/-- **The column under a name** in a table. -/
theorem column?_of_isTable (textName : String) {text : String} {header : List String}
    {rows : List (List String)} (htable : IsTable text header rows) :
    ∃ t, Csv.read textName text = .ok t ∧ ∀ name, t.column? name =
      if name ∈ columnNames header then
        let cells := rows.map (cellBelow header rows name)
        some (if isPinned textName header name then textColumn cells else column cells)
      else none := by
  obtain ⟨⟨h, rs, hrecords, rfl, rfl⟩, hshort⟩ := htable
  refine ⟨ofRecords textName h rs, read_eq_ok_iff.2 ⟨h, rs, hrecords, ?_, rfl⟩,
    column?_ofRecords textName h rs⟩
  rw [width_eq_rowLimit]
  exact List.forall_mem_map.1 hshort

theorem exists_isTable_of_read {textName text : String} {t : Table}
    (h : Csv.read textName text = .ok t) : ∃ header rows, IsTable text header rows := by
  obtain ⟨h, rs, hrecords, hshort, -⟩ := read_eq_ok_iff.1 h
  rw [width_eq_rowLimit] at hshort
  exact ⟨h.cells, rs.map Record.cells, ⟨h, rs, hrecords, rfl, rfl⟩, List.forall_mem_map.2 hshort⟩

/-- **The column under a name** in a file of full rows. -/
theorem column?_of_read (textName : String) {text : String} {header : List String}
    {rows : List (List String)} (hfile : IsFile text header rows) :
    ∃ t, Csv.read textName text = .ok t ∧ ∀ name ∈ columnNames header,
      t.column? name = some (columnUnder textName header name rows) := by
  obtain ⟨t, ht, hcolumn⟩ := column?_of_isTable textName hfile.isTable
  have hlimit : rowLimit header rows = header.length := by
    cases rows with
    | nil => exact Nat.max_zero _
    | cons r rows => exact (congrArg _ (hfile.full r List.mem_cons_self)).trans (Nat.max_self _)
  have hcell : ∀ name, cellBelow header rows name = cellUnder header name := by
    intro name
    funext row
    rw [cellBelow, hlimit, Nat.sub_self, Nat.zero_add, cellUnder]
  refine ⟨t, ht, fun name hname => ?_⟩
  rw [hcolumn, if_pos hname, hcell]
  rfl

end Csv
end PassiveAggressive
