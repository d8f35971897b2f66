import CodeGauge.Analysis
import CodeGauge.CommandLine.Run
import CodeGauge.Label
import CodeGauge.Main
import CodeGauge.Proofs.Complexity.Estimate
import CodeGauge.Proofs.Grammar.Innermost
import CodeGauge.Proofs.Grammar.Outline
import CodeGauge.Proofs.Locate.Failure
import CodeGauge.Proofs.Grammar.Comprehension
import CodeGauge.Proofs.Metrics.BlockText
import CodeGauge.Proofs.Pattern.Search
import CodeGauge.Proofs.Rule.Assignment
import CodeGauge.Proofs.Locate.Margin
import CodeGauge.Proofs.Locate.Spelling
import CodeGauge.Proofs.FrontEnd.Registry
import CodeGauge.Proofs.Rule.Registry
import CodeGauge.Proofs.Locate.Rows
import CodeGauge.Proofs.Complexity.Evidence
import CodeGauge.Proofs.Metrics.Peak
import CodeGauge.Proofs.Metrics.Layout
import CodeGauge.Proofs.Metrics.Call
import CodeGauge.Proofs.Metrics.SelfCall
import CodeGauge.Proofs.Block.Crlf
import CodeGauge.Proofs.Locate.Snippet
import CodeGauge.Proofs.Block.Parameters
import CodeGauge.Proofs.Locate.Expression
import CodeGauge.Proofs.Rule.Engine
import CodeGauge.Proofs.Rule.Random
import CodeGauge.Proofs.Pattern.Closing
import CodeGauge.Proofs.Block.Comment
import CodeGauge.Proofs.Rule.Allocation
import CodeGauge.Proofs.Rule.Lookup
import CodeGauge.Proofs.Rule.Injection
import CodeGauge.Proofs.Rule.Comparison
import CodeGauge.Proofs.Block.Braces
import CodeGauge.Proofs.Rule.Query
import CodeGauge.Proofs.Grammar.Depth
import CodeGauge.Proofs.Config.Environment
import CodeGauge.Proofs.Metrics.LoopLine
