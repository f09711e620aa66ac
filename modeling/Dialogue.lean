import Dialogue.SortedMap
import Dialogue.Decimal
import Dialogue.Text.Blank
import Dialogue.Json
import Dialogue.Json.Number
import Dialogue.Json.Reader
import Dialogue.Json.Record
import Dialogue.Text.Ranges
import Dialogue.Text.CaseTable
import Dialogue.Text.Lowercase
import Dialogue.Text.HiddenTable
import Dialogue.Text.Quoted
import Dialogue.Hash.Blake3
import Dialogue.FileTree.Path
import Dialogue.FileTree
import Dialogue.Warning
import Dialogue.Error
import Dialogue.Message
import Dialogue.Interpreter
import Dialogue.Event
import Dialogue.Slot
import Dialogue.Domain
import Dialogue.TurnState
import Dialogue.Tracker
import Dialogue.History
import Dialogue.Prediction
import Dialogue.Policy
import Dialogue.Policy.Spec
import Dialogue.Policy.Options
import Dialogue.Policy.Memoization
import Dialogue.Policy.Rule
import Dialogue.Policy.UnexpectedIntent
import Dialogue.Policy.FallbackPolicy
import Dialogue.Policy.Registry
import Dialogue.Policy.Builtin
import Dialogue.Distinct
import Dialogue.Timestamp
import Dialogue.Version
import Dialogue.Ensemble
import Dialogue.Ensemble.Ranking
import Dialogue.Ensemble.FanOut
import Dialogue.Ensemble.Decision
import Dialogue.Model.Metadata
import Dialogue.Model
import Dialogue.Model.Interruption
import Dialogue.Yaml.Cursor
import Dialogue.Yaml.Scalar
import Dialogue.Yaml.Tag
import Dialogue.Yaml.Token
import Dialogue.Yaml.Lexer
import Dialogue.Yaml.Node
import Dialogue.Yaml.Schema
import Dialogue.Yaml.Document
import Dialogue.Domain.File
import Dialogue.Policy.ConfigFile
import Dialogue.Proofs.FloatOrder
import Dialogue.Proofs.TopScore
import Dialogue.Proofs.Ranking
import Dialogue.Proofs.Outcome
import Dialogue.Proofs.FanOut
import Dialogue.Proofs.ActionIndex
import Dialogue.Proofs.OneHot
import Dialogue.Proofs.Slices
import Dialogue.Proofs.RuleChoice
import Dialogue.Proofs.BuiltinAnswers
import Dialogue.Proofs.Assembly
import Dialogue.Proofs.Rejection
import Dialogue.Proofs.GuardedPolicies
import Dialogue.Proofs.RunTime
import Dialogue.Proofs.ArrivalOrder
import Dialogue.Proofs.Digits
import Dialogue.Proofs.JsonNumbers
import Dialogue.Proofs.JsonStrings
import Dialogue.Proofs.JsonText
import Dialogue.Proofs.JsonRecords
import Dialogue.Proofs.StateText
import Dialogue.Proofs.Recollection
import Dialogue.Proofs.QuietPolicies
import Dialogue.Proofs.Labels
import Dialogue.Proofs.FallbackGuarantee
import Dialogue.Proofs.StoryReplay
import Dialogue.Proofs.TimestampText
import Dialogue.Proofs.FileTreeFrame
import Dialogue.Proofs.ModelPaths
import Dialogue.Proofs.PolicyText
import Dialogue.Proofs.MetadataText
import Dialogue.Proofs.ModelFiles
import Dialogue.Proofs.ModelRoundTrip
import Dialogue.Proofs.ReplayParts
import Dialogue.Proofs.ReplayAgreement
import Dialogue.Proofs.AfterRestart
import Dialogue.Proofs.ParsedTurns
import Dialogue.Proofs.FileTreeChanges
import Dialogue.Proofs.CutText
import Dialogue.Proofs.PartialWrite
import Dialogue.Proofs.FailedPersist
import Dialogue.Proofs.MessageFallback
import Dialogue.Proofs.UnlikelyIntent
import Dialogue.Proofs.FingerprintBytes
import Dialogue.Proofs.DomainFingerprint
import Dialogue.Proofs.VersionText
import Dialogue.Proofs.MetadataFingerprint
import Dialogue.Proofs.RestartReset
import Dialogue.Proofs.ForgetfulRecall
import Dialogue.Proofs.StoryContexts
import Dialogue.Proofs.ContextRecall
import Dialogue.Proofs.RuleLearning
import Dialogue.Proofs.LatestMessage
import Dialogue.Proofs.FreshMessages
import Dialogue.Proofs.RulePrecedence
import Dialogue.Proofs.StorySets
import Dialogue.Proofs.HistoryGrowth
import Dialogue.Proofs.StateShape
import Dialogue.Proofs.ReadAlike
import Dialogue.Proofs.TurnOrder
import Dialogue.Proofs.Bookkeeping
import Dialogue.Proofs.ModelLoading
import Dialogue.Proofs.PathComponents
import Dialogue.Proofs.LoaderReach
import Dialogue.Proofs.RegistryHistory
import Dialogue.Proofs.UnsignedFloats
import Dialogue.Proofs.MessageForm
import Dialogue.Proofs.CompactText
import Dialogue.Proofs.MessageRoundTrip
import Dialogue.Proofs.ProperJson
import Dialogue.Proofs.ConfigEntries
import Dialogue.Proofs.ConfigGrammar
import Dialogue.Proofs.ActionListing
import Dialogue.Proofs.TopIndex
import Dialogue.Proofs.DomainSections
import Dialogue.Proofs.FiniteFloats
import Dialogue.Proofs.CanonicalJson
import Dialogue.Proofs.JsonWords
import Dialogue.Proofs.JsonCodecs
import Dialogue.Proofs.EventCodecs
import Dialogue.Proofs.WindowKeys
import Dialogue.Proofs.LabelUses
