import PassiveAggressive.Log.Message
import PassiveAggressive.Main
import PassiveAggressive.Proofs.Command.Predicting
import PassiveAggressive.Proofs.Configuration.Precedence
import PassiveAggressive.Proofs.Exact.CappedReach
import PassiveAggressive.Proofs.Exact.Mirror
import PassiveAggressive.Proofs.Exact.Optimum
import PassiveAggressive.Proofs.Exact.Rearrangement
import PassiveAggressive.Proofs.Exact.StepSizes
import PassiveAggressive.Proofs.Exact.Summary
import PassiveAggressive.Proofs.Example.FirstComplaint
import PassiveAggressive.Proofs.Example.Independence
import PassiveAggressive.Proofs.Example.NormalForm
import PassiveAggressive.Proofs.Example.Stopping
import PassiveAggressive.Proofs.Observation.Blocks
import PassiveAggressive.Proofs.Pipeline.Finalized
import PassiveAggressive.Proofs.Pipeline.Persistence
import PassiveAggressive.Proofs.Session.AdaptiveMargin
import PassiveAggressive.Proofs.Session.Bookkeeping
import PassiveAggressive.Proofs.Session.FiniteWeights
import PassiveAggressive.Proofs.Session.Refeeding
import PassiveAggressive.Proofs.Session.Renaming
import PassiveAggressive.Proofs.Session.Uncapped
import PassiveAggressive.Proofs.Session.Vocabulary
import PassiveAggressive.Proofs.Weights.Copies
import PassiveAggressive.Proofs.Weights.RoundTrip
