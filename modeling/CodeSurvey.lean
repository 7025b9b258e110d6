import CodeSurvey.Text.Alphabetic
import CodeSurvey.Text.LetterCase
import CodeSurvey.Text.Blank
import CodeSurvey.Decimal.Shortest
import CodeSurvey.Decimal.Literal
import CodeSurvey.EntityId
import CodeSurvey.Similarity
import CodeSurvey.Store
import CodeSurvey.Snapshot
import CodeSurvey.Ensemble
import CodeSurvey.Linking.Inference
import CodeSurvey.Run.Basic
import CodeSurvey.Settings.Basic
import CodeSurvey.Judge.Message
import CodeSurvey.Json.Reader
import CodeSurvey.Json.Printer
import CodeSurvey.Codec.Run
import CodeSurvey.Codec.Settings
import CodeSurvey.Ingest
import CodeSurvey.Fusion
import CodeSurvey.Survey.Execution
import CodeSurvey.Codec.Exact
import CodeSurvey.Rehearsal.Timeline
import CodeSurvey.Settings.Load
import CodeSurvey.Proofs.Survey.RetryBudget
import CodeSurvey.Proofs.Survey.Phases
import CodeSurvey.Proofs.Survey.HandOver
import CodeSurvey.Proofs.Survey.Interruption
import CodeSurvey.Proofs.Survey.StableEdges
import CodeSurvey.Proofs.Survey.SelectivePass
import CodeSurvey.Proofs.Survey.Scores
import CodeSurvey.Proofs.Survey.SimilarLinks
import CodeSurvey.Proofs.Survey.DistinctLinks
import CodeSurvey.Proofs.Survey.StageLog
import CodeSurvey.Proofs.Service.Panics
import CodeSurvey.Proofs.Service.Cancellation
import CodeSurvey.Proofs.Gate.Soundness
import CodeSurvey.Proofs.Fusion.Incremental
import CodeSurvey.Proofs.Gate.Completion
import CodeSurvey.Proofs.Gate.Specification
import CodeSurvey.Proofs.Fusion.Selective
import CodeSurvey.Proofs.Fusion.Report
import CodeSurvey.Proofs.Fusion.Repeated
import CodeSurvey.Proofs.Fusion.Structure
import CodeSurvey.Proofs.Gate.Consultation
import CodeSurvey.Proofs.Ladder.Template
import CodeSurvey.Proofs.Survey.RepeatedVectors
import CodeSurvey.Proofs.Json.Reader
import CodeSurvey.Proofs.Json.Record
import CodeSurvey.Proofs.Judge.Verdict
import CodeSurvey.Proofs.Ladder.Resolution
import CodeSurvey.Proofs.Linking.Layers
import CodeSurvey.Proofs.Linking.SimilarPairs
import CodeSurvey.Proofs.Ensemble.Content
import CodeSurvey.Proofs.Survey.PostProcessors
import CodeSurvey.Proofs.Ingest.Capacity
import CodeSurvey.Proofs.Settings.Override
import CodeSurvey.Proofs.Settings.Load
import CodeSurvey.Proofs.Codec.RoundTrip
import CodeSurvey.Proofs.EntityId
import CodeSurvey.Proofs.Cosine.Range
import CodeSurvey.Proofs.Linking.Roles
import CodeSurvey.Proofs.Store.History
