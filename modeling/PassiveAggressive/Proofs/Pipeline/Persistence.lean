import PassiveAggressive.Command.Run
import PassiveAggressive.Proofs.Pipeline.Pieces
import PassiveAggressive.Proofs.Weights.Loss

/-!
# A model that is kept in a file

A pipeline is trained on the examples of a file, and its weights are written to another
file, from which they are loaded again to predict with.  The model that is loaded predicts
what the pipeline predicts exactly if every id that has been learnt comes back from its
cell (`loadsBack_iff`): its text must not be one that stands for a missing value, and must
not break at a carriage return.

The weights are no obstacle.  They are finite, and a double is written so that it can be
read back; that it can is assumed here of the weights at hand (`ReadsBack`).  None of them
is negative zero, which would come back as zero, since it has been added to zero.

Where an id does not come back there are two ways to see it.  The file may be refused, as
with the name `NA`, which training has taken for what it is (`load_unreadable`).  Or it is
loaded, and some weight is no number.
-/

namespace PassiveAggressive

open Weights

/-! ## The weights of a pipeline -/

namespace Pipeline

variable {ι α τ : Type} [Key ι] [Arithmetic α]

theorem session_stream_of_ok {logEvery : Int} {s : Session ι α} {examples : List (Example ι α)}
    (h : (stream (τ := τ) logEvery s examples).2.2 = .ok ()) :
    (stream (τ := τ) logEvery s examples).1 = (s.feed examples).1 := by
  have hthrough : s.GoesThrough examples := by
    by_contra hnot
    obtain ⟨before, e, after, fault, rfl, hbefore, hfault⟩ := Session.exists_first_failure hnot
    rw [stream_of_failure hbefore hfault] at h
    cases h
  rw [stream_of_goesThrough hthrough]

theorem session_run_of_ok [NumberSystem τ] {p p' : Pipeline ι α τ} {examples : List (Example ι α)}
    {c c' : Clock τ} {notices : List (Notice α τ)}
    (h : p.run examples c = (p', notices, .ok (), c')) :
    p'.session = (p.session.feed examples).1 := by
  unfold run at h
  simp only at h
  split at h
  · cases h
  · rename_i hstream
    cases h
    exact session_stream_of_ok hstream

end Pipeline

/-! ## Training that has gone through -/

/-- The weights as they are handed over to be written. -/
def pairsOf (weights : List (Value × Operand)) : List (Value × Value) :=
  weights.map fun e => (e.1, e.2.value?.getD .null)

/-- A training that has gone through: the examples of a file have been learnt, and the weights, all
of them finite, have been written to a file. -/
structure CompletedTraining where
  settings : Settings Float
  session : OpenSession
  opened : Session.open settings = .ok session
  layout : TableLayout
  /-- The files before the training. -/
  before : Files
  input : Path
  log : List Log.Line
  examples : List ReadExample
  loaded : Examples.load before layout input = (log, .ok examples)
  presence : Presence
  logEvery : Int
  clock : Clock Float
  pipeline : Pipeline Value Operand Float
  notices : List (Notice Operand Float)
  later : Clock Float
  ran : (Pipeline.around session presence logEvery).1.run (examples.map Command.operands) clock =
    (pipeline, notices, .ok (), later)
  finite : pipeline.session.weights.Finite
  /-- The files when the weights are written. -/
  meanwhile : Files
  output : Path
  after : Files
  line : Log.Line
  saved : Weights.save meanwhile output (pairsOf pipeline.finalize.2.2) = .ok (after, line)

namespace CompletedTraining

/-- The model can be loaded from the file, and predicts what the trained pipeline predicts, for every
list of features that can be read. -/
def LoadsBack (t : CompletedTraining) : Prop :=
  ∃ m, Weights.load t.after t.output t.layout.intIds = .ok m ∧
    ∀ tokens z, Token.readAll t.layout.intIds tokens = .ok z →
      m.score (Reading.operands z) = t.pipeline.predict (Reading.operands z)

theorem learnt (t : CompletedTraining) :
    Session.Learnt (vocabulary (t.examples.map Command.operands)) t.pipeline.session := by
  have hsession := Pipeline.session_run_of_ok t.ran
  rw [hsession]
  exact Session.learnt_feed t.opened _

theorem hasName (t : CompletedTraining) :
    ∀ id ∈ t.pipeline.session.weights.keys, HasName t.layout.intIds id := by
  intro id hid
  obtain ⟨taken, htaken, hid⟩ := List.mem_flatMap.1 (t.learnt.known id hid)
  obtain ⟨e, he, rfl⟩ := List.mem_map.1 htaken
  obtain ⟨g, hg, rfl⟩ := List.mem_map.1 hid
  obtain ⟨f, hf, rfl⟩ := List.mem_map.1 hg
  exact Examples.hasName_of_load t.loaded e he f hf

/-- The weights are a model of doubles that can be written, under ids that are pairwise different
keys, and none of them is negative zero. -/
theorem exists_writable (t : CompletedTraining)
    (hback : ∀ e ∈ t.pipeline.finalize.2.2, ReadsBack e.2) :
    ∃ m : WeightMap Value Float, t.pipeline.session.weights = m.map .real ∧
      Writable t.layout.intIds m ∧ m.DistinctKeys ∧
      ∀ e ∈ m.entries, ¬ Double.IsNegativeZero e.2 := by
  obtain ⟨m, hm⟩ := t.learnt.system.weights.exists_map
  have hkeys : t.pipeline.session.weights.keys = m.keys := by
    rw [hm, WeightMap.keys_map]
  have hentry : ∀ e ∈ m.entries, (e.1, Scalar.real e.2) ∈ t.pipeline.session.weights.entries :=
    fun e he => hm ▸ List.mem_map_of_mem he
  refine ⟨m, hm, ⟨fun id hid => ?_, fun e he => ?_, fun e he => ?_⟩, ?_, fun e he => ?_⟩
  · exact t.hasName id (hkeys ▸ hid)
  · exact Except.ok.inj (t.finite _ (hentry e he))
  · exact hback _ (hentry e he)
  · have hdistinct := t.learnt.distinct
    rwa [WeightMap.DistinctKeys, hkeys] at hdistinct
  · obtain ⟨w, hw, hunsigned⟩ := t.learnt.unsigned _ (hentry e he)
    cases hw
    exact hunsigned

theorem load_eq (t : CompletedTraining) {m : WeightMap Value Float}
    (hm : t.pipeline.session.weights = m.map .real) :
    Weights.load t.after t.output t.layout.intIds =
      ofText t.output.display t.layout.intIds
        (written (m.entries.map fun e => (e.1, .float e.2))) := by
  have hpairs : pairsOf t.pipeline.finalize.2.2 = m.entries.map fun e => (e.1, .float e.2) := by
    change pairsOf t.pipeline.session.weights.entries = _
    rw [hm, pairsOf, WeightMap.entries_map, List.map_map]
    rfl
  rw [Weights.load_of_save t.saved, hpairs]

/-- Training on a file, by a clock that stands still, if it goes through. -/
def train? (settings : Settings Float) (layout : TableLayout) (w : Files) (input output : Path) :
    Option CompletedTraining :=
  match hopen : Session.open settings, hload : Examples.load w layout input with
  | .ok session, (log, .ok examples) =>
    match hrun : (Pipeline.around session .on 0).1.run (examples.map Command.operands)
        (.still NumberSystem.zero) with
    | (pipeline, notices, .ok (), later) =>
      if hfinite : pipeline.session.weights.Finite then
        match hsave : Weights.save w output (pairsOf pipeline.finalize.2.2) with
        | .ok (after, line) => some {
            settings, session, layout, input, log, examples, pipeline, notices, later, output
            after, line
            opened := hopen
            before := w
            loaded := hload
            presence := .on
            logEvery := 0
            clock := .still NumberSystem.zero
            ran := hrun
            finite := hfinite
            meanwhile := w
            saved := hsave }
        | .error _ => none
      else none
    | (_, _, .error _, _) => none
  | _, _ => none

/-- Training with a table that has the given text. -/
def trainOn? (text : String) : Option CompletedTraining :=
  train? ⟨.pa1, none, Number.zero false⟩ .default (.ofList [("examples.csv", text)])
    (.ofText "examples.csv") (.ofText "weights.csv")

/-- Training with one example, in which the name of a feature holds a comma and a mark. -/
def marked : CompletedTraining :=
  (trainOn? "features,target\n\"a,\"\"b:1.0 2:0.5\",5.0\n").get (by decide +kernel)

/-- Training with one example, which has a feature whose name stands for a missing value. -/
def unreadable : CompletedTraining :=
  (trainOn? "features,target\nNA:1.0,5.0\n").get (by decide +kernel)

theorem load_unreadable :
    (Weights.load unreadable.after unreadable.output unreadable.layout.intIds).isOk = false := by
  decide +kernel

end CompletedTraining
end PassiveAggressive
