import PassiveAggressive.Proofs.Example.Rows
import PassiveAggressive.Proofs.Example.Targets

/-!
# Dropped rows

A table is read in one of two modes: invalid rows are dropped with a warning, or the first of
them stops the reading.  Either way a row is judged by itself, so the rows that give an example
(`accepted`) and those that give none (`refused`) can be told without reading the table, and
the two modes differ only in what they do with the second kind.

* `rows_dropping`: where the refused rows are all to blame themselves, they are dropped.
* `rows_stopping`: otherwise the rows before the first refused one are kept, and it stops the
  reading.
* `keepsValid_ofTable`: of a table of texts, both modes keep exactly the valid rows.

What is logged is written out here (`dropLines`): a warning for each dropped row, with its index in
the table and what is wrong with it, and one with their number.
-/

namespace PassiveAggressive
namespace Reading

variable {layout : TableLayout} {cell : Value} {target : Float}

/-! ## Accepted and refused rows -/

/-- The examples of the rows that give one. -/
def accepted (layout : TableLayout) (rs : List (Value × Float)) : List ReadExample :=
  rs.filterMap fun r => (row layout r.1 r.2).toOption

/-- Why a row gives no example, if it gives none. -/
def rowFault? (layout : TableLayout) (r : Value × Float) : Option RowFault :=
  match row layout r.1 r.2 with
  | .ok _ => none
  | .error e => some e

/-- The rows that give no example, each by its index and with what is wrong with it, where the index
of the first row is `index`. -/
def refused (layout : TableLayout) (index : Nat) (rs : List (Value × Float)) :
    List (Nat × RowFault) :=
  (rs.zipIdx index).filterMap fun r => (rowFault? layout r.1).map fun e => (r.2, e)

theorem accepted_cons_of_ok {x : ReadExample} (h : row layout cell target = .ok x)
    (rest : List (Value × Float)) :
    accepted layout ((cell, target) :: rest) = x :: accepted layout rest :=
  List.filterMap_cons_some (by rw [h]; rfl)

theorem accepted_cons_of_error {e : RowFault} (h : row layout cell target = .error e)
    (rest : List (Value × Float)) :
    accepted layout ((cell, target) :: rest) = accepted layout rest :=
  List.filterMap_cons_none (by rw [h]; rfl)

theorem refused_cons_of_ok {x : ReadExample} (h : row layout cell target = .ok x) (index : Nat)
    (rest : List (Value × Float)) :
    refused layout index ((cell, target) :: rest) = refused layout (index + 1) rest :=
  List.filterMap_cons_none (by rw [rowFault?, h]; rfl)

theorem refused_cons_of_error {e : RowFault} (h : row layout cell target = .error e) (index : Nat)
    (rest : List (Value × Float)) :
    refused layout index ((cell, target) :: rest) = (index, e) :: refused layout (index + 1) rest :=
  List.filterMap_cons_some (by rw [rowFault?, h]; rfl)

/-- A refused row is a row of the table, and its fault is the fault of the row. -/
theorem mem_refused_iff {index i : Nat} {e : RowFault} {rs : List (Value × Float)} :
    (i, e) ∈ refused layout index rs ↔
      ∃ r, (r, i) ∈ rs.zipIdx index ∧ row layout r.1 r.2 = .error e := by
  unfold refused
  rw [List.mem_filterMap]
  have hfault : ∀ r, rowFault? layout r = some e ↔ row layout r.1 r.2 = .error e := by
    intro r
    unfold rowFault?
    cases row layout r.1 r.2 with
    | ok x => exact ⟨nofun, nofun⟩
    | error e' => simp
  constructor
  · rintro ⟨⟨r, j⟩, hr, h⟩
    obtain ⟨e', he', hpair⟩ := Option.map_eq_some_iff.1 h
    cases hpair
    exact ⟨r, hr, (hfault r).1 he'⟩
  · rintro ⟨r, hr, he⟩
    exact ⟨(r, i), hr, by rw [(hfault r).2 he]; rfl⟩

theorem complaint_of_mem_refused {index : Nat} {rs : List (Value × Float)}
    (h : ∀ r ∈ rs, ∀ e, row layout r.1 r.2 = .error e → e.isComplaint = true) :
    ∀ p ∈ refused layout index rs, p.2.isComplaint = true := by
  rintro ⟨i, e⟩ hp
  obtain ⟨r, hr, he⟩ := mem_refused_iff.1 hp
  exact h r (List.fst_mem_of_mem_zipIdx hr) e he

/-- Every row gives an example or is refused. -/
theorem length_accepted_add_length_refused (index : Nat) (rs : List (Value × Float)) :
    (accepted layout rs).length + (refused layout index rs).length = rs.length := by
  induction rs generalizing index with
  | nil => rfl
  | cons r rest ih =>
    obtain ⟨cell, target⟩ := r
    cases hrow : row layout cell target with
    | ok x =>
      rw [accepted_cons_of_ok hrow, refused_cons_of_ok hrow, List.length_cons, List.length_cons,
        ← ih (index + 1)]
      omega
    | error e =>
      rw [accepted_cons_of_error hrow, refused_cons_of_error hrow, List.length_cons,
        List.length_cons, ← ih (index + 1)]
      omega

/-! ## The two modes -/

/-- The warnings about refused rows, each with the index of the row and what is wrong with it, and
then one with the number of all dropped rows, if there are any.  So many have been dropped
before. -/
def dropLines (dropped : Nat) (faults : List (Nat × RowFault)) : List Log.Line :=
  (faults.map fun p =>
    ⟨.warning, "[Dataset] drop row=" ++ Number.showNat p.1 ++ ": " ++ p.2.message⟩) ++
  if dropped + faults.length = 0 then []
  else [⟨.warning,
    "[Dataset] dropped " ++ Number.showNat (dropped + faults.length) ++ " invalid rows"⟩]

/-- **Refused rows are dropped** if they are all to blame. -/
theorem rows_dropping (hdrop : layout.dropInvalid = true) (index dropped : Nat)
    {rs : List (Value × Float)}
    (hall : ∀ p ∈ refused layout index rs, p.2.isComplaint = true) :
    rows layout index dropped rs =
      ⟨accepted layout rs, dropLines dropped (refused layout index rs), none⟩ := by
  induction rs generalizing index dropped with
  | nil => rfl
  | cons r rest ih =>
    obtain ⟨cell, target⟩ := r
    rw [rows]
    cases hrow : row layout cell target with
    | ok x =>
      rw [refused_cons_of_ok hrow] at hall ⊢
      rw [accepted_cons_of_ok hrow]
      simp only [ih (index + 1) dropped hall]
    | error e =>
      rw [refused_cons_of_error hrow] at hall ⊢
      obtain ⟨hcomplaint, hall⟩ := List.forall_mem_cons.1 hall
      have hdropped : (layout.dropInvalid && e.isComplaint) = true := by
        rw [hdrop, Bool.true_and]
        exact hcomplaint
      have hcount : dropped + ((index, e) :: refused layout (index + 1) rest).length =
          dropped + 1 + (refused layout (index + 1) rest).length := by
        rw [List.length_cons]
        omega
      rw [accepted_cons_of_error hrow]
      simp only [hdropped, if_true, ih (index + 1) (dropped + 1) hall, dropLines, dropLine,
        Log.warning, hcount, List.map_cons, List.cons_append]

/-- **A reading stops at the first row that cannot be dropped.** -/
theorem rows_stopping {before : List (Value × Float)} {r : Value × Float}
    {after : List (Value × Float)} {e : RowFault} (index dropped : Nat)
    (hbefore : refused layout index before = []) (hrow : row layout r.1 r.2 = .error e)
    (hstop : (layout.dropInvalid && e.isComplaint) = false) :
    rows layout index dropped (before ++ r :: after) = ⟨accepted layout before, [], some e⟩ := by
  induction before generalizing index with
  | nil =>
    rw [List.nil_append, rows]
    simp only [hrow, hstop, Bool.false_eq_true, if_false]
    rfl
  | cons q before ih =>
    obtain ⟨cell, target⟩ := q
    rw [List.cons_append, rows]
    cases hq : row layout cell target with
    | error e' =>
      rw [refused_cons_of_error hq] at hbefore
      cases hbefore
    | ok x =>
      rw [refused_cons_of_ok hq] at hbefore
      rw [accepted_cons_of_ok hq]
      simp only [ih (index + 1) hbefore]

/-- Where nothing is refused, there is nothing to drop and nothing to stop at. -/
theorem rows_of_refused_eq_nil {rs : List (Value × Float)} (index : Nat)
    (h : refused layout index rs = []) :
    rows layout index 0 rs = ⟨accepted layout rs, [], none⟩ := by
  induction rs generalizing index with
  | nil => rfl
  | cons r rest ih =>
    obtain ⟨cell, target⟩ := r
    rw [rows]
    cases hrow : row layout cell target with
    | error e =>
      rw [refused_cons_of_error hrow] at h
      cases h
    | ok x =>
      rw [refused_cons_of_ok hrow] at h
      rw [accepted_cons_of_ok hrow]
      simp only [ih (index + 1) h]

/-- There is a first refused row, if one is refused. -/
theorem exists_first_refused {rs : List (Value × Float)} (index : Nat)
    (h : refused layout index rs ≠ []) :
    ∃ before r after e, rs = before ++ r :: after ∧ refused layout index before = [] ∧
      row layout r.1 r.2 = .error e := by
  induction rs generalizing index with
  | nil => exact absurd rfl h
  | cons r rest ih =>
    obtain ⟨cell, target⟩ := r
    cases hrow : row layout cell target with
    | error e => exact ⟨[], (cell, target), rest, e, rfl, rfl, hrow⟩
    | ok x =>
      rw [refused_cons_of_ok hrow] at h
      obtain ⟨before, r, after, e, rfl, hbefore, he⟩ := ih (index + 1) h
      exact ⟨(cell, target) :: before, r, after, e, rfl,
        (refused_cons_of_ok hrow index before).trans hbefore, he⟩

/-! ## Tables of texts -/

/-- Both modes keep exactly the valid rows of a table: the modes are those of the layout with its
`dropInvalid` set, and `rs` are the cells beside the targets as numbers. -/
structure KeepsValid (layout : TableLayout) (t : Table) (rs : List (Value × Float)) : Prop where
  /-- The valid rows are those that give an example. -/
  gives : ∀ r ∈ rs, ∀ x, row layout r.1 r.2 = .ok x ↔ Gives layout r.1 r.2 x
  /-- Their examples pass the check. -/
  checked : ∀ x ∈ accepted layout rs, Example.check (operands x.1) (.real x.2) = .ok ()
  /-- The other rows are to blame. -/
  complaints : ∀ p ∈ refused layout 0 rs, p.2.isComplaint = true
  /-- They are dropped with a warning each, and one about all of them if there are any. -/
  dropping : ofTable { layout with dropInvalid := true } t =
    ⟨accepted layout rs, dropLines 0 (refused layout 0 rs), none⟩
  /-- Or the first of them stops the reading, without a warning. -/
  stopping : refused layout 0 rs ≠ [] → ∃ before r after e, rs = before ++ r :: after ∧
    refused layout 0 before = [] ∧ row layout r.1 r.2 = .error e ∧ e.isComplaint = true ∧
    ofTable { layout with dropInvalid := false } t = ⟨accepted layout before, [], some e⟩
  /-- If all rows are valid, the modes agree. -/
  agree : refused layout 0 rs = [] →
    ofTable { layout with dropInvalid := false } t = ofTable { layout with dropInvalid := true } t
  /-- What is read before the reading stops is the beginning of what is read otherwise. -/
  begins : (ofTable { layout with dropInvalid := false } t).examples <+:
    (ofTable { layout with dropInvalid := true } t).examples

/-- What is read from a table whose targets can be read is read row by row. -/
theorem ofTable_of_numbers {t : Table} {cells targets : List Value} {ys : List Float}
    (hcells : t.column? layout.featuresColumn = some cells)
    (htargets : t.column? layout.targetColumn = some targets)
    (hnumbers : Table.numbers targets = .ok ys) :
    ofTable layout t = rows layout 0 0 (cells.zip ys) := by
  simp only [ofTable, hcells, htargets, hnumbers]

theorem check_of_row {x : ReadExample} (h : row layout cell target = .ok x) :
    Example.check (operands x.1) (.real x.2) = .ok () := by
  obtain ⟨fs, -, h⟩ := bind_eq_ok_iff.1 h
  obtain ⟨_, hcheck, h⟩ := bind_eq_ok_iff.1 h
  cases h
  cases hresult : Example.check (operands fs) (.real target) with
  | ok => rfl
  | error e =>
    rw [hresult] at hcheck
    cases hcheck

theorem check_of_mem_accepted {rs : List (Value × Float)} {x : ReadExample}
    (hx : x ∈ accepted layout rs) : Example.check (operands x.1) (.real x.2) = .ok () := by
  obtain ⟨r, -, hr⟩ := List.mem_filterMap.1 hx
  cases hrow : row layout r.1 r.2 with
  | error e =>
    rw [hrow] at hr
    cases hr
  | ok x' =>
    rw [hrow] at hr
    cases hr
    exact check_of_row hrow

theorem complaint_of_row (hids : layout.intIds = false) (hdelimiter : layout.delimiter ≠ "")
    (hcell : cell.HoldsTexts) {e : RowFault} (h : row layout cell target = .error e) :
    e.isComplaint = true := by
  rcases of_row_eq_error hdelimiter hcell h with hcomplaint | ⟨htrue, -⟩
  · exact hcomplaint
  · rw [hids] at htrue
    cases htrue

theorem keepsValid_of_numbers {t : Table} {cells targets : List Value} {ys : List Float}
    (hids : layout.intIds = false) (hdelimiter : layout.delimiter ≠ "")
    (hcells : t.column? layout.featuresColumn = some cells)
    (htargets : t.column? layout.targetColumn = some targets)
    (hnumbers : Table.numbers targets = .ok ys) (htexts : ∀ cell ∈ cells, cell.HoldsTexts) :
    KeepsValid layout t (cells.zip ys) := by
  have hread : ∀ dropInvalid, ofTable { layout with dropInvalid } t =
      rows { layout with dropInvalid } 0 0 (cells.zip ys) := fun _ =>
    ofTable_of_numbers hcells htargets hnumbers
  have hholds : ∀ r ∈ cells.zip ys, r.1.HoldsTexts := fun r hr => htexts r.1 (List.of_mem_zip hr).1
  generalize cells.zip ys = rs at hread hholds
  have hfault : ∀ r ∈ rs, ∀ e, row layout r.1 r.2 = .error e → e.isComplaint = true :=
    fun r hr _ he => complaint_of_row hids hdelimiter (hholds r hr) he
  have hcomplaints : ∀ p ∈ refused layout 0 rs, p.2.isComplaint = true :=
    complaint_of_mem_refused hfault
  -- a row is judged without regard to the mode
  have hlenient : ofTable { layout with dropInvalid := true } t =
      ⟨accepted layout rs, dropLines 0 (refused layout 0 rs), none⟩ := by
    rw [hread]
    exact rows_dropping rfl 0 0 hcomplaints
  have hstrict : refused layout 0 rs ≠ [] → ∃ before r after e, rs = before ++ r :: after ∧
      refused layout 0 before = [] ∧ row layout r.1 r.2 = .error e ∧ e.isComplaint = true ∧
      ofTable { layout with dropInvalid := false } t = ⟨accepted layout before, [], some e⟩ := by
    intro hsome
    obtain ⟨before, r, after, e, hrs, hbefore, he⟩ := exists_first_refused 0 hsome
    have hmem : r ∈ rs := hrs ▸ List.mem_append_right before List.mem_cons_self
    refine ⟨before, r, after, e, hrs, hbefore, he, hfault r hmem e he, ?_⟩
    rw [hread, hrs]
    exact rows_stopping 0 0 hbefore he rfl
  have hvalid : refused layout 0 rs = [] → ofTable { layout with dropInvalid := false } t =
      ⟨accepted layout rs, [], none⟩ := by
    intro hnone
    rw [hread]
    exact rows_of_refused_eq_nil 0 hnone
  refine ⟨fun r hr x => row_eq_ok_iff hdelimiter (hholds r hr), fun x => check_of_mem_accepted,
    hcomplaints, hlenient, hstrict, ?_, ?_⟩
  · intro hnone
    rw [hvalid hnone, hlenient, hnone]
    rfl
  · by_cases hnone : refused layout 0 rs = []
    · rw [hvalid hnone, hlenient]
    · obtain ⟨before, r, after, e, hrs, -, -, -, hstopped⟩ := hstrict hnone
      rw [hstopped, hlenient, hrs]
      show accepted layout before <+: accepted layout (before ++ r :: after)
      rw [accepted, accepted, List.filterMap_append]
      exact List.prefix_append _ _

/-- **Exactly the valid rows are kept, in both modes.**  Take a table with a column of texts, of
missing cells or of lists of texts, a column of targets of any kind, and a delimiter that is not
empty, and let names made of digits stay texts.  Then the valid rows are read in order, and every
other row is to blame.  Where such rows are dropped, there is one warning for each with its index in
the table, and one about all of them if there are any (`dropLines`); and where they are not, the
first of them stops the reading.

Rows are judged by their targets as numbers, which each cell of the column comes to by itself.  Only
one kind of cell is not a matter of its row: a whole number beyond every double stops the conversion
of the whole column.  With such a target there are no rows to judge, and nothing is read in either
mode. -/
theorem keepsValid_ofTable {t : Table} {cells targets : List Value} (hids : layout.intIds = false)
    (hdelimiter : layout.delimiter ≠ "") (hcells : t.column? layout.featuresColumn = some cells)
    (htargets : t.column? layout.targetColumn = some targets)
    (htexts : ∀ cell ∈ cells, cell.HoldsTexts) :
    ((∀ n, .int n ∈ targets → (Number.ofInt n).isInf = false) →
      ∃ ys, Table.numbers targets = .ok ys ∧ KeepsValid layout t (cells.zip ys)) ∧
    ∀ n, .int n ∈ targets → (Number.ofInt n).isInf = true →
      ∀ dropInvalid, ofTable { layout with dropInvalid } t = ⟨[], [], some (.fault .tooLarge)⟩ := by
  refine ⟨fun hall => ?_, fun n hn hinf dropInvalid => ?_⟩
  · obtain ⟨ys, hys⟩ := Table.exists_numbers_iff.2 hall
    exact ⟨ys, hys, keepsValid_of_numbers hids hdelimiter hcells htargets hys htexts⟩
  · have hnumbers := Table.numbers_of_isInf hn hinf
    simp only [ofTable, hcells, htargets, hnumbers]
    rfl

/-- Two valid rows among a repeated id, a missing cell, a value that cannot be read and a target
that is no number. -/
def mixed : Table :=
  ⟨[("features", [.text "a:1", .text "a:1 a:2", .null, .list [.text "b:1", .text "c"],
      .text "d:x", .text "e"]),
    ("target", [.int 1, .int 1, .int 1, .text "2.5", .int 1, .text "much"])]⟩

/-- Two rows are kept, and there are four warnings and one. -/
theorem keepsValid_ofTable_mixed :
    ∃ cells targets ys, TableLayout.default.intIds = false ∧ TableLayout.default.delimiter ≠ "" ∧
      mixed.column? "features" = some cells ∧ mixed.column? "target" = some targets ∧
      (∀ cell ∈ cells, cell.HoldsTexts) ∧ Table.numbers targets = .ok ys ∧
      KeepsValid TableLayout.default mixed (cells.zip ys) ∧
      (ofTable TableLayout.default mixed).examples.length = 2 ∧
      (ofTable TableLayout.default mixed).log =
        [⟨.warning, "[Dataset] drop row=1: Duplicate feature id in example: 'a'"⟩,
          ⟨.warning, "[Dataset] drop row=2: Example has no features"⟩,
          ⟨.warning, "[Dataset] drop row=4: Invalid feature value in token 'd:x'"⟩,
          ⟨.warning, "[Dataset] drop row=5: Non-finite target: nan"⟩,
          ⟨.warning, "[Dataset] dropped 4 invalid rows"⟩] := by
  have hcells : mixed.column? "features" = some [.text "a:1", .text "a:1 a:2", .null,
      .list [.text "b:1", .text "c"], .text "d:x", .text "e"] := rfl
  have htargets : mixed.column? "target" =
      some [.int 1, .int 1, .int 1, .text "2.5", .int 1, .text "much"] := rfl
  have htexts : ∀ cell ∈ ([.text "a:1", .text "a:1 a:2", .null,
      .list [.text "b:1", .text "c"], .text "d:x", .text "e"] : List Value), cell.HoldsTexts := by
    simp [Value.HoldsTexts]
  have hsmall : ∀ n, Value.int n ∈ ([.int 1, .int 1, .int 1, .text "2.5", .int 1, .text "much"] :
      List Value) → (Number.ofInt n).isInf = false := by
    intro n hn
    obtain rfl : n = 1 := by simpa using hn
    decide +kernel
  have hdelimiter : TableLayout.default.delimiter ≠ "" := by decide
  obtain ⟨ys, hys, hkeeps⟩ := (keepsValid_ofTable rfl hdelimiter hcells htargets htexts).1 hsmall
  refine ⟨_, _, ys, rfl, hdelimiter, hcells, htargets, htexts, hys, hkeeps, ?_, ?_⟩
  · decide +kernel
  · decide +kernel

end Reading
end PassiveAggressive
