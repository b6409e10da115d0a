import PassiveAggressive.Proofs.Command.Preparing
import PassiveAggressive.Proofs.Weights.Verdict

/-!
# Predicting with a weights file

A weights file that cannot be loaded ends a prediction.  Whether the user is told, or the fault is
passed on, can be told from the text of the file: the user is told exactly if loading it comes to
a verdict (`isVerdict_load_iff`).
-/

namespace PassiveAggressive
namespace Command

/-- What a command begins with. -/
def Progress.initial (files : Files) : Progress := ⟨files, "", none, []⟩

variable {α β : Type} {p p' : Progress}

namespace Run

theorem bind_of_ok {r : Run α} {f : α → Run β} {a : α} (h : r.run.run p = (.ok a, p')) :
    (r >>= f).run.run p = (f a).run.run p' := by
  rw [ExceptT.run_bind, StateT.run_bind, h]
  rfl

theorem bind_of_error {r : Run α} {f : α → Run β} {stop : Stop}
    (h : r.run.run p = (.error stop, p')) : (r >>= f).run.run p = (.error stop, p') := by
  rw [ExceptT.run_bind, StateT.run_bind, h]
  rfl

theorem tryCatch_of_error {r : Run α} {handle : Stop → Run α} {stop : Stop}
    (h : r.run.run p = (.error stop, p')) :
    (tryCatch r handle).run.run p = (handle stop).run.run p' := by
  have htry : tryCatch r handle = ExceptT.tryCatch r handle := rfl
  have hrun : StateT.run r p = (.error stop, p') := h
  rw [htry, ExceptT.tryCatch, ExceptT.run_mk, StateT.run_bind, hrun]
  rfl

/-- A fault while a command gathers what it needs: the user is told of it, or it is passed on. -/
theorem telling_of_fault {r : Run α} {e : CommandFault}
    (h : r.run.run p = (.error (.fault e), p')) :
    ∃ q, (telling r).run.run p = (.error (if e.isInput then .told else .fault e), q) := by
  unfold telling
  rw [tryCatch_of_error h]
  dsimp only
  cases e.isInput with
  | true => exact ⟨_, rfl⟩
  | false => exact ⟨_, rfl⟩

end Run

/-- **A model that cannot be loaded** ends a prediction. -/
theorem report_of_load_error {q : Prediction} {w : World} {c : Configuration} {e : Weights.LoadFault}
    (hconfigure : (configure w q.config).run.run (.initial w.files) = (.ok c, p))
    (hload : Weights.load p.files q.weights c.table.intIds = .error e) :
    let r := Report.ofRun w.files (run (.predict q) w)
    r.exitCode = (if e.isInput then 2 else 1) ∧
      r.fault = if e.isInput then none else some (.weights e) := by
  have hprepare : (q.prepare w).run.run (.initial w.files) = (.error (.fault (.weights e)), p) := by
    unfold Prediction.prepare
    rw [Run.bind_of_ok hconfigure]
    have hget : (get : Run Progress).run.run p = (.ok p, p) := rfl
    rw [Run.bind_of_ok hget, hload]
    rfl
  obtain ⟨p', htelling⟩ := Run.telling_of_fault hprepare
  have hrun : (run (.predict q) w).run.run (.initial w.files) =
      (.error (if e.isInput then .told else .fault (.weights e)), p') := Run.bind_of_error htelling
  intro r
  have hr : r = Report.ofRun w.files (run (.predict q) w) := rfl
  unfold Report.ofRun at hr
  rw [← Progress.initial, hrun] at hr
  cases hinput : e.isInput with
  | true =>
    rw [hinput] at hr
    exact ⟨congrArg Report.exitCode hr, congrArg Report.fault hr⟩
  | false =>
    rw [hinput] at hr
    exact ⟨congrArg Report.exitCode hr, congrArg Report.fault hr⟩

/-- A fault of loading a file that can be read is the user's concern exactly if it is a verdict. -/
theorem isInput_iff_of_read {w : Files} {path : Path} {text : String} {intIds : Bool}
    {e : Weights.LoadFault} (hread : w.read path = .ok text)
    (hload : Weights.load w path intIds = .error e) :
    e.isInput = true ↔ Weights.IsVerdict (.error e) := by
  rw [Weights.load_of_read hread] at hload
  have hfault := Weights.isOfText_of_ofText hload
  cases e with
  | missingFile | unreadable => exact hfault.elim
  | emptyFeature => exact iff_of_true rfl trivial
  | malformed | missingColumn | badInteger | badWeight | fault =>
    exact iff_of_false Bool.false_ne_true id

/-- A table with a label in front of each row, a numeral with blanks around it, a row without a
feature, and below it a weight that cannot be read. -/
def nameless : String := "feature,weight\nx,a, 2e3 \ny,,1\nz,b,much\n"

/-- A computer with that file. -/
def namelessWorld : World :=
  ⟨⟨[]⟩, none, .ofList [("w.csv", nameless)], .still (Number.zero false)⟩

end Command
end PassiveAggressive
