import Mathlib.Data.List.TakeWhile
import PassiveAggressive.Csv.Record
import PassiveAggressive.Weights.File

/-!
# Reading on

How the fold over the characters of a table file takes the pieces a file is written in.  A
run of plain characters becomes part of the current cell (`run_plain`), the text of a
quoted cell comes back with its marks halved (`run_quoted`), and a comma, a plain cell and
a line feed end the record of a line with two cells (`run_second`).
-/

namespace PassiveAggressive
namespace Csv

/-- A character that is only itself: it separates nothing, marks nothing and ends nothing. -/
def IsPlain (c : Char) : Prop :=
  c ≠ ',' ∧ c ≠ Text.doubleMark ∧ c ≠ '\n' ∧ c ≠ '\r'

instance (c : Char) : Decidable (IsPlain c) := inferInstanceAs (Decidable (_ ∧ _ ∧ _ ∧ _))

/-- A blank that makes no record of a line. -/
def isMarginal (c : Char) : Bool := c = ' ' || c = '\t'

/-- Where a plain character leads. -/
def Place.next (c : Char) : Place → Place
  | .lineStart | .margin => if isMarginal c then .margin else .cell
  | _ => .cell

/-- A line that ends here is a record. -/
def Place.InRecord : Place → Prop
  | .lineStart | .margin => False
  | _ => True

namespace Place

/-- Where a run of plain characters leads. -/
def along (place : Place) (cs : List Char) : Place := cs.foldl (fun q c => q.next c) place

theorem next_ne_quoted (c : Char) (place : Place) : place.next c ≠ .quoted := by
  cases place with
  | lineStart | margin =>
    simp only [next]
    split <;> exact nofun
  | _ => exact nofun

theorem along_ne_quoted {place : Place} (h : place ≠ .quoted) (cs : List Char) :
    place.along cs ≠ .quoted := by
  induction cs generalizing place with
  | nil => exact h
  | cons c cs ih => exact ih (next_ne_quoted c place)

theorem InRecord.along {place : Place} (h : place.InRecord) (cs : List Char) :
    (place.along cs).InRecord := by
  induction cs generalizing place with
  | nil => exact h
  | cons c cs ih =>
    refine ih ?_
    cases place with
    | lineStart | margin => exact h.elim
    | _ => trivial

/-- A line is in a record as soon as it is not blank. -/
theorem inRecord_along_iff {place : Place} (h : place = .lineStart ∨ place = .margin)
    (cs : List Char) : (place.along cs).InRecord ↔ cs.all isMarginal = false := by
  induction cs generalizing place with
  | nil => rcases h with rfl | rfl <;> simp [Place.along, InRecord]
  | cons c cs ih =>
    have hnext : place.next c = if isMarginal c then .margin else .cell := by
      rcases h with rfl | rfl <;> rfl
    change ((place.next c).along cs).InRecord ↔ _
    rw [hnext, List.all_cons]
    cases isMarginal c with
    | true => exact ih (.inr rfl)
    | false =>
      have hcell : Place.cell.InRecord := trivial
      exact iff_of_true (hcell.along cs) rfl

end Place

namespace Progress

variable {p : Progress}

/-- Several characters further. -/
def run (p : Progress) (cs : List Char) : Progress := cs.foldl step p

@[simp] theorem run_nil (p : Progress) : p.run [] = p := rfl

theorem run_cons (p : Progress) (c : Char) (cs : List Char) :
    p.run (c :: cs) = (p.step c).run cs := rfl

theorem run_append (p : Progress) (cs ds : List Char) : p.run (cs ++ ds) = (p.run cs).run ds :=
  List.foldl_append

/-- Between two lines, when so many have ended and these records have been read. -/
def between (lines : Nat) (records : List Record) (returned : Bool) : Progress :=
  ⟨.lineStart, [], [], lines, records, returned⟩

/-! ## Single characters -/

theorem step_plain (hp : p.place ≠ .quoted) {c : Char} (hc : IsPlain c) :
    p.step c = { p with place := p.place.next c, held := c :: p.held, returned := false } := by
  obtain ⟨place, held, cells, lines, records, returned⟩ := p
  obtain ⟨hcomma, hmark, hfeed, hreturn⟩ := hc
  cases place with
  | quoted => exact absurd rfl hp
  | lineStart | margin =>
    cases hmargin : decide (c = ' ') || decide (c = '\t') <;>
      simp only [step, take, opening, plain, hold, Place.next, isMarginal, hmargin, hcomma, hmark,
        hfeed, hreturn, reduceCtorEq, Bool.false_eq_true, ↓reduceIte]
  | cellStart | cell | mark =>
    simp only [step, take, opening, plain, hold, Place.next, hcomma, hmark, hfeed, hreturn,
      reduceCtorEq, ↓reduceIte]

theorem step_comma (hp : p.place ≠ .quoted) :
    p.step ',' = { p.endCell with returned := false } := by
  obtain ⟨place, held, cells, lines, records, returned⟩ := p
  cases place with
  | quoted => exact absurd rfl hp
  | _ => rfl

theorem step_return (hp : p.place ≠ .quoted) :
    p.step '\r' = { p.endLine with returned := true } := by
  rw [step, if_neg hp, if_neg (by decide), if_pos rfl]

theorem step_feed (hp : p.place ≠ .quoted) (hreturned : p.returned = false) :
    p.step '\n' = p.endLine := by
  rw [step, if_neg hp, if_pos rfl, hreturned, if_neg Bool.false_ne_true]

theorem endLine_of_inRecord (hp : p.place.InRecord) : p.endLine = p.endCell.endRecord := by
  obtain ⟨place, held, cells, lines, records, returned⟩ := p
  cases place with
  | lineStart | margin => exact hp.elim
  | _ => rfl

/-! ## Runs of characters -/

/-- **Plain characters** become part of the current cell. -/
theorem run_plain (hp : p.place ≠ .quoted) {cs : List Char} (hcs : ∀ c ∈ cs, IsPlain c) :
    p.run cs =
      { p with
        place := p.place.along cs
        held := cs.reverse ++ p.held
        returned := p.returned && cs.isEmpty } := by
  induction cs generalizing p with
  | nil => simp [Place.along]
  | cons c cs ih =>
    obtain ⟨hc, hcs⟩ := List.forall_mem_cons.1 hcs
    rw [run_cons, step_plain hp hc, ih (Place.next_ne_quoted c p.place) hcs]
    simp [Place.along]

/-- The text of a quoted cell comes back with its marks halved. -/
theorem run_doubled (hp : p.place = .quoted) (hreturned : p.returned = false) (cs : List Char) :
    p.run (Weights.doubled cs) = { p with held := cs.reverse ++ p.held } := by
  induction cs generalizing p with
  | nil => rfl
  | cons c cs ih =>
    have hrest : (p.hold c .quoted).run (Weights.doubled cs) =
        { p with held := (c :: cs).reverse ++ p.held } := by
      rw [ih (p := p.hold c .quoted) rfl hreturned]
      simp [hold, hp]
    rw [← hrest, Weights.doubled]
    split
    · -- a mark is written twice: the first one closes the quotation, the second opens it again
      rename_i hc
      rw [run_cons, run_cons]
      congr 1
      obtain ⟨place, held, cells, lines, records, returned⟩ := p
      cases hp
      cases hreturned
      cases hc
      rfl
    · rename_i hc
      rw [run_cons, step, if_pos hp, take, hp]
      simp only [if_neg hc]

theorem run_quoted {place : Place} (hplace : place = .lineStart ∨ place = .cellStart)
    (cells : List String) (lines : Nat) (records : List Record) (returned : Bool)
    (cs : List Char) :
    run ⟨place, [], cells, lines, records, returned⟩
        (Text.doubleMark :: Weights.doubled cs ++ [Text.doubleMark]) =
      ⟨.mark, cs.reverse, cells, lines, records, false⟩ := by
  have hopen : step ⟨place, [], cells, lines, records, returned⟩ Text.doubleMark =
      ⟨.quoted, [], cells, lines, records, false⟩ := by
    rcases hplace with rfl | rfl <;> rfl
  rw [List.cons_append, run_cons, hopen, run_append, run_doubled rfl rfl, List.append_nil]
  rfl

/-- A comma, a plain cell and a line feed end the record of a line with two cells. -/
theorem run_second (hp : p.place ≠ .quoted) (hcells : p.cells = [])
    {second : List Char} (hsecond : ∀ c ∈ second, IsPlain c) :
    p.run (',' :: second ++ ['\n']) =
      between (p.lines + 1)
        (⟨[String.ofList p.held.reverse, String.ofList second], p.lines + 1⟩ :: p.records)
        false := by
  let q : Progress :=
    ⟨.cellStart, [], [String.ofList p.held.reverse], p.lines, p.records, false⟩
  have hcomma : p.step ',' = q := by
    rw [step_comma hp, endCell, cellText, hcells]
  have hq : q.place ≠ .quoted := nofun
  have hin : q.place.InRecord := trivial
  rw [List.cons_append, run_cons, hcomma, run_append, run_plain hq hsecond, run_cons, run_nil,
    step_feed (Place.along_ne_quoted hq second) rfl, endLine_of_inRecord (hin.along second),
    endCell, cellText]
  simp [endRecord, between, q]

/-- A carriage return ends a line as well, which is no record if it is blank. -/
theorem run_broken (lines : Nat) (records : List Record) (returned : Bool) {cs : List Char}
    (hcs : ∀ c ∈ cs, IsPlain c) :
    (between lines records returned).run (cs ++ ['\r']) =
      between (lines + 1)
        (if cs.all isMarginal then records else ⟨[String.ofList cs], lines + 1⟩ :: records) true := by
  have hstart : (between lines records returned).place ≠ .quoted := nofun
  have hplace : (Place.lineStart.along cs).InRecord ↔ cs.all isMarginal = false :=
    Place.inRecord_along_iff (.inl rfl) cs
  rw [run_append, run_plain hstart hcs, run_cons, run_nil,
    step_return (Place.along_ne_quoted hstart cs)]
  cases hblank : cs.all isMarginal with
  | false =>
    rw [endLine_of_inRecord (hplace.2 hblank), endCell, cellText]
    simp [endRecord, between]
  | true =>
    rw [hblank, Bool.true_eq_false, iff_false] at hplace
    change { endLine ⟨Place.lineStart.along cs, _, _, _, _, _⟩ with returned := true } = _
    cases hp : Place.lineStart.along cs with
    | lineStart | margin => rfl
    | _ =>
      rw [hp] at hplace
      exact (hplace trivial).elim

end Progress

end Csv
end PassiveAggressive
