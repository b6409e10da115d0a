import PassiveAggressive.Proofs.Example.Dropping
import PassiveAggressive.Proofs.Example.Targets

/-!
# Where the reading of a table stops

Invalid rows can be dropped with a warning, and a table of texts would then be read to its end
whatever its texts are.  It is not always: a name made of digit-like characters is handed to the
reader of whole numbers, and what that refuses is no complaint about the token.  A superscript
in the place of a name is enough to stop the reading (`not_forall_stopped_eq_none`).

`stopped_eq_none_iff` says which tables are read to their end.  A cell stops the reading if the
first of its tokens that cannot be read is miscounted (`Halts`); whatever stands before that
token is read first, so a token that is complained about saves the reading.  And there is one
thing that a column of targets must not hold, which is a whole number beyond every double.
-/

namespace PassiveAggressive
namespace Reading

variable {layout : TableLayout} {cell : Value} {target : Float}

/-- The first token of the cell that cannot be read is miscounted. -/
def Halts (delimiter : String) (cell : Value) : Prop :=
  ∃ before s after, tokens delimiter cell = .ok (before ++ .text s :: after) ∧
    (∀ t ∈ before, ∃ f, Token.read true t = .ok f) ∧ Token.Miscounted s

/-- **The rows that are not to blame** for giving no example: those with a cell that halts, where
names made of digits become whole numbers. -/
theorem exists_uncomplained_iff (hdelimiter : layout.delimiter ≠ "") (hcell : cell.HoldsTexts) :
    (∃ e, row layout cell target = .error e ∧ e.isComplaint = false) ↔
      layout.intIds = true ∧ Halts layout.delimiter cell := by
  obtain ⟨ts, hts, htexts⟩ := exists_tokens hdelimiter hcell
  constructor
  · rintro ⟨e, he, hcomplaint⟩
    rcases of_row_eq_error hdelimiter hcell he with htrue | ⟨hids, i, rfl⟩
    · rw [hcomplaint] at htrue
      cases htrue
    · refine ⟨hids, ?_⟩
      have hread : Token.readAll layout.intIds ts = .error (.badInteger i) := by
        rw [row_of_tokens hts] at he
        split at he
        · rename_i e' hread
          cases he
          exact hread
        · split at he
          · cases he
          · cases he
      rw [hids] at hread
      obtain ⟨before, t, after, rfl, hbefore, ht⟩ := mapM_eq_error_iff.1 hread
      obtain ⟨s, rfl⟩ := htexts t (List.mem_append_right _ List.mem_cons_self)
      exact ⟨before, s, after, hts, hbefore, Token.miscounted_iff.2 ⟨i, ht⟩⟩
  · rintro ⟨hids, before, s, after, hhalts, hbefore, hs⟩
    obtain ⟨i, hi⟩ := Token.miscounted_iff.1 hs
    have hread : Token.readAll layout.intIds (before ++ .text s :: after) =
        .error (.badInteger i) := by
      rw [hids]
      exact mapM_eq_error_iff.2 ⟨before, .text s, after, rfl, hbefore, hi⟩
    refine ⟨.token (.badInteger i), ?_, rfl⟩
    rw [row_of_tokens hhalts, hread]

/-- Where invalid rows are dropped, the reading stops unless all refused rows are to blame. -/
theorem rows_stopped_eq_none_iff (hdrop : layout.dropInvalid = true) (index dropped : Nat)
    {rs : List (Value × Float)} :
    (rows layout index dropped rs).stopped = none ↔
      ∀ r ∈ rs, ∀ e, row layout r.1 r.2 = .error e → e.isComplaint = true := by
  induction rs generalizing index dropped with
  | nil =>
    constructor
    · intro _ r hr
      exact absurd hr List.not_mem_nil
    · intro _
      rfl
  | cons r rest ih =>
    obtain ⟨cell, target⟩ := r
    rw [rows, List.forall_mem_cons]
    cases row layout cell target with
    | ok x =>
      simp only [ih (index + 1) dropped, reduceCtorEq, false_implies, implies_true, true_and]
    | error e =>
      have hhead : (∀ e', (.error e : Except RowFault ReadExample) = .error e' →
          e'.isComplaint = true) ↔ e.isComplaint = true := by
        simp
      simp only [hdrop, hhead, Bool.true_and]
      by_cases hcomplaint : e.isComplaint = true
      · simp only [hcomplaint, if_true, ih (index + 1) (dropped + 1), true_and]
      · simp only [hcomplaint, if_false, reduceCtorEq, false_and, Bool.false_eq_true]

/-- **Which tables are read to their end.**  Take a table with a column of texts, of missing cells
or of lists of texts, beside a column of targets of any kind, a delimiter that is not empty, and let
invalid rows be dropped.  The reading does not stop if and only if no target is a whole number
beyond every double and, where names made of digits become whole numbers, no cell halts.  If it does
not stop, every row is kept or dropped with a warning. -/
theorem stopped_eq_none_iff {t : Table} {cells targets : List Value}
    (hdrop : layout.dropInvalid = true) (hdelimiter : layout.delimiter ≠ "")
    (hcells : t.column? layout.featuresColumn = some cells)
    (htargets : t.column? layout.targetColumn = some targets)
    (hheight : cells.length = targets.length) (htexts : ∀ cell ∈ cells, cell.HoldsTexts) :
    ((ofTable layout t).stopped = none ↔
      (∀ n, .int n ∈ targets → (Number.ofInt n).isInf = false) ∧
        (layout.intIds = true → ∀ cell ∈ cells, ¬ Halts layout.delimiter cell)) ∧
    ((ofTable layout t).stopped = none → ∃ ys, Table.numbers targets = .ok ys ∧
      ofTable layout t = ⟨accepted layout (cells.zip ys),
        dropLines 0 (refused layout 0 (cells.zip ys)), none⟩ ∧
      (accepted layout (cells.zip ys)).length + (refused layout 0 (cells.zip ys)).length =
        cells.length) := by
  rw [← Table.exists_numbers_iff]
  cases hnumbers : Table.numbers targets with
  | error f =>
    have hstopped : (ofTable layout t).stopped = some (.fault f) := by
      simp only [ofTable, hcells, htargets, hnumbers]
      rfl
    have hread : ¬ (ofTable layout t).stopped = none := by
      rw [hstopped]
      exact Option.some_ne_none _
    refine ⟨⟨fun hnone => absurd hnone hread, ?_⟩, fun hnone => absurd hnone hread⟩
    rintro ⟨⟨ys, hys⟩, -⟩
    cases hys
  | ok ys =>
    have hread := ofTable_of_numbers hcells htargets hnumbers
    have hlength : cells.length ≤ ys.length := by
      rw [Table.length_of_numbers hnumbers, hheight]
    -- every cell is the cell of a row
    have hcover : (cells.zip ys).map Prod.fst = cells := List.map_fst_zip hlength
    have hholds : ∀ r ∈ cells.zip ys, r.1.HoldsTexts := fun r hr =>
      htexts r.1 (List.of_mem_zip hr).1
    have hrows : (ofTable layout t).stopped = none ↔
        ∀ r ∈ cells.zip ys, ∀ e, row layout r.1 r.2 = .error e → e.isComplaint = true := by
      rw [hread]
      exact rows_stopped_eq_none_iff hdrop 0 0
    refine ⟨?_, fun hnone => ⟨ys, rfl, ?_, ?_⟩⟩
    · rw [hrows]
      constructor
      · intro hall
        refine ⟨⟨ys, rfl⟩, fun hids cell hcell hhalts => ?_⟩
        rw [← hcover] at hcell
        obtain ⟨r, hr, rfl⟩ := List.mem_map.1 hcell
        obtain ⟨e, he, hcomplaint⟩ :=
          (exists_uncomplained_iff hdelimiter (hholds r hr)).2 ⟨hids, hhalts⟩
        rw [hall r hr e he] at hcomplaint
        cases hcomplaint
      · rintro ⟨-, hnone⟩ r hr e he
        by_contra hcomplaint
        obtain ⟨hids, hhalts⟩ := (exists_uncomplained_iff hdelimiter (hholds r hr)).1
          ⟨e, he, Bool.eq_false_iff.2 hcomplaint⟩
        exact hnone hids r.1 (List.of_mem_zip hr).1 hhalts
    · rw [hread]
      exact rows_dropping hdrop 0 0 (complaint_of_mem_refused (hrows.1 hnone))
    · rw [length_accepted_add_length_refused, ← List.length_map Prod.fst, hcover]

/-- Where names made of digits become whole numbers. -/
def numbered : TableLayout := { TableLayout.default with intIds := true }

/-- A token that is complained about stands before one that is miscounted, and so the row is
dropped. -/
def guarded : Table :=
  ⟨[("features", [.text "12:1 ٣", .text "a:x ²", .list [.text "7:0.5"]]),
    ("target", [.int 1, .int 1, .text "much"])]⟩

theorem stopped_eq_none_iff_guarded :
    ∃ cells targets, numbered.dropInvalid = true ∧ numbered.delimiter ≠ "" ∧
      guarded.column? numbered.featuresColumn = some cells ∧
      guarded.column? numbered.targetColumn = some targets ∧ cells.length = targets.length ∧
      (∀ cell ∈ cells, cell.HoldsTexts) ∧
      ((ofTable numbered guarded).stopped = none ↔
        (∀ n, .int n ∈ targets → (Number.ofInt n).isInf = false) ∧
          (numbered.intIds = true → ∀ cell ∈ cells, ¬ Halts numbered.delimiter cell)) ∧
      (ofTable numbered guarded).stopped.isNone = true ∧
      (ofTable numbered guarded).examples.length = 1 ∧
      (ofTable numbered guarded).log.length = 3 := by
  have htexts : ∀ cell ∈ ([.text "12:1 ٣", .text "a:x ²", .list [.text "7:0.5"]] : List Value),
      cell.HoldsTexts := by
    simp [Value.HoldsTexts]
  have hdelimiter : numbered.delimiter ≠ "" := by decide
  have hcells : guarded.column? numbered.featuresColumn =
      some [.text "12:1 ٣", .text "a:x ²", .list [.text "7:0.5"]] := rfl
  have htargets : guarded.column? numbered.targetColumn =
      some [.int 1, .int 1, .text "much"] := rfl
  refine ⟨_, _, rfl, hdelimiter, hcells, htargets, rfl, htexts,
    (stopped_eq_none_iff rfl hdelimiter hcells htargets rfl htexts).1, ?_, ?_, ?_⟩
  · decide +kernel
  · decide +kernel
  · decide +kernel

/-- **A superscript stops the reading**, though invalid rows are dropped. -/
theorem not_forall_stopped_eq_none :
    ¬ ∀ (layout : TableLayout) (t : Table) (cells targets : List Value),
      layout.dropInvalid = true → layout.delimiter ≠ "" →
      t.column? layout.featuresColumn = some cells →
      t.column? layout.targetColumn = some targets → cells.length = targets.length →
      (∀ cell ∈ cells, cell.HoldsTexts) → (ofTable layout t).stopped = none := by
  intro h
  have hnone := h numbered ⟨[("features", [.text "²:1"]), ("target", [.int 1])]⟩ _ _ rfl
    (by decide) rfl rfl rfl (by simp [Value.HoldsTexts])
  have hsome : (ofTable numbered
      ⟨[("features", [.text "²:1"]), ("target", [.int 1])]⟩).stopped.isSome = true := by
    decide +kernel
  rw [hnone] at hsome
  cases hsome

end Reading
end PassiveAggressive
