import Sift.Json.Text
import Sift.Json.Parse
import Sift.Text.Blank
import Sift.Decode.Basic
import Sift.Filter.Basic
import Sift.Filter.Clause
import Sift.Filter.Compile
import Sift.Filter.Sort
import Sift.Search.Query
import Sift.Aggregation.Compile
import Sift.Dsl.Similarity
import Sift.Dsl.Complexity
import Sift.Mapping.Fields
import Sift.Search.Result
import Sift.Engine.Config
import Sift.Engine.Error
import Sift.Time.Instant
import Sift.Time.Rfc3339
import Sift.Performance.Record
import Sift.Performance.Analysis
import Sift.Engine.Fault
import Sift.Stats.Mean
import Sift.Text.Csv
import Sift.SlowLog.Entry
import Sift.SlowLog.Basic
import Sift.SlowLog.Report
import Sift.SlowLog.Export
import Sift.Performance.Analyzer
import Sift.Cache.Basic
import Sift.Text.Lower
import Sift.History.Basic
import Sift.Connection.Url
import Sift.Connection.Config
import Sift.Connection.Registry
import Sift.Backend.Basic
import Sift.Backend.Memory
import Sift.Search.Execute
import Sift.Session.Basic
import Sift.Session.Run
import Sift.Session.Interleaving
import Sift.Cli.Local
import Sift.Main
import Sift.Unicode.Table
import Sift.Unicode.IdnaMapping
import Sift.Unicode.Mark
import Sift.Unicode.BidiClass
import Sift.Unicode.Joining
import Sift.Unicode.Punycode
import Sift.Unicode.Idna
import Sift.Proofs.SiblingMerge
import Sift.Proofs.CompiledTree
import Sift.Proofs.CacheQueue
import Sift.Proofs.ShortestDecimal
import Sift.Proofs.NumberText
import Sift.Proofs.CompactText
import Sift.Proofs.CacheKey
import Sift.Proofs.FailedCalls
import Sift.Proofs.NextPage
import Sift.Proofs.SessionBooks
import Sift.Proofs.CacheCoherence
import Sift.Proofs.SearchEquality
import Sift.Proofs.HistoryRuns
import Sift.Proofs.SlowLogRuns
import Sift.Proofs.AnalyzerLedger
import Sift.Proofs.ObjectFields
import Sift.Proofs.AggregationTree
import Sift.Proofs.StreamPages
import Sift.Proofs.LeafClauses
import Sift.Proofs.TermLists
import Sift.Proofs.PageTiling
import Sift.Proofs.SimilarEntries
import Sift.Proofs.SlowLogClusters
import Sift.Proofs.WildcardClauses
import Sift.Proofs.EditDistance
import Sift.Proofs.ComplexitySignals
import Sift.Proofs.AnalysisScore
import Sift.Proofs.ReportSums
import Sift.Proofs.StreamOffsets
import Sift.Proofs.JsonValues
import Sift.Proofs.FieldCatalog
import Sift.Proofs.Utf8Order
import Sift.Proofs.SlowLogGroups
import Sift.Proofs.CalendarDays
import Sift.Proofs.TimestampText
import Sift.Proofs.RecordRoundTrip
