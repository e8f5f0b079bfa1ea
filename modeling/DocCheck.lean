import DocCheck.Command
import DocCheck.Decimal.Shortest
import DocCheck.Document
import DocCheck.Edit
import DocCheck.Fence
import DocCheck.Finding
import DocCheck.Heading
import DocCheck.Http.Query
import DocCheck.Http.Server
import DocCheck.Http.Service
import DocCheck.InlineComment
import DocCheck.Json.Cursor
import DocCheck.Json.Escape
import DocCheck.Json.Reader
import DocCheck.Json.Scalar
import DocCheck.Json.Value
import DocCheck.Lint
import DocCheck.Main
import DocCheck.Mdx.Attention
import DocCheck.Mdx.Check
import DocCheck.Mdx.Container
import DocCheck.Mdx.Event
import DocCheck.Mdx.Fault
import DocCheck.Mdx.Flow
import DocCheck.Mdx.Inline
import DocCheck.Mdx.Node
import DocCheck.Mdx.Place
import DocCheck.Mdx.Reference
import DocCheck.Mdx.Standalone
import DocCheck.Mdx.Tag
import DocCheck.Mdx.Tree
import DocCheck.Named
import DocCheck.Proofs.AcceptedRulesets
import DocCheck.Proofs.AllowedEdits
import DocCheck.Proofs.Answer
import DocCheck.Proofs.AppendedText
import DocCheck.Proofs.BlankRuns
import DocCheck.Proofs.BreakStyles
import DocCheck.Proofs.ByteOrder
import DocCheck.Proofs.CommentScan
import DocCheck.Proofs.Convergence
import DocCheck.Proofs.DocumentOrder
import DocCheck.Proofs.EditOrder
import DocCheck.Proofs.EditedParts
import DocCheck.Proofs.FenceOutline
import DocCheck.Proofs.FencedBlocks
import DocCheck.Proofs.FencesKept
import DocCheck.Proofs.FinalBreak
import DocCheck.Proofs.FindingOrder
import DocCheck.Proofs.FixChains
import DocCheck.Proofs.GuardedEdits
import DocCheck.Proofs.GuardedHeadings
import DocCheck.Proofs.GuardedLines
import DocCheck.Proofs.GuardedRequests
import DocCheck.Proofs.GuardedRules
import DocCheck.Proofs.GuardedWords
import DocCheck.Proofs.HashEdits
import DocCheck.Proofs.HashLine
import DocCheck.Proofs.HeadingContent
import DocCheck.Proofs.HeadingParts
import DocCheck.Proofs.HeadingRepairs
import DocCheck.Proofs.JoinedLines
import DocCheck.Proofs.LeadingEdits
import DocCheck.Proofs.LinePass
import DocCheck.Proofs.LineRules
import DocCheck.Proofs.LineScan
import DocCheck.Proofs.LineWeight
import DocCheck.Proofs.LoneRule
import DocCheck.Proofs.Mends
import DocCheck.Proofs.NumberedLines
import DocCheck.Proofs.OnePass
import DocCheck.Proofs.OpaqueCode
import DocCheck.Proofs.Overlaps
import DocCheck.Proofs.PlainEdits
import DocCheck.Proofs.Quotations
import DocCheck.Proofs.RecordedFindings
import DocCheck.Proofs.RegistryOrder
import DocCheck.Proofs.RelaxedOptions
import DocCheck.Proofs.RenderedFindings
import DocCheck.Proofs.RepairedLines
import DocCheck.Proofs.RepairedSize
import DocCheck.Proofs.Replies
import DocCheck.Proofs.ReportedLines
import DocCheck.Proofs.Requests
import DocCheck.Proofs.RetouchedLines
import DocCheck.Proofs.RewrittenRulesets
import DocCheck.Proofs.RuleEntries
import DocCheck.Proofs.RuleSwitches
import DocCheck.Proofs.Schedule
import DocCheck.Proofs.SeverityLabels
import DocCheck.Proofs.Simultaneous
import DocCheck.Proofs.SingleEdit
import DocCheck.Proofs.SourcePlaces
import DocCheck.Proofs.SpacedHashes
import DocCheck.Proofs.Splice
import DocCheck.Proofs.TabRuns
import DocCheck.Proofs.TabWidth
import DocCheck.Proofs.TabsAlone
import DocCheck.Proofs.TagOpeners
import DocCheck.Proofs.TextEnds
import DocCheck.Proofs.VisibleText
import DocCheck.Proofs.WovenLines
import DocCheck.Proofs.WrittenComments
import DocCheck.Rule.Basic
import DocCheck.Rule.Blocks
import DocCheck.Rule.Headings
import DocCheck.Rule.Id
import DocCheck.Rule.Violation
import DocCheck.Rule.Whitespace
import DocCheck.Ruleset.Basic
import DocCheck.Ruleset.File
import DocCheck.Ruleset.Json
import DocCheck.Ruleset.Raw
import DocCheck.Ruleset.Setting
import DocCheck.Ruleset.Standard
import DocCheck.Ruleset.Yaml
import DocCheck.Session
import DocCheck.Text.Alphabetic
import DocCheck.Text.Blank
import DocCheck.Text.DecimalDigit
import DocCheck.Text.Graphic
import DocCheck.Text.Identifier
import DocCheck.Text.Lines
import DocCheck.Text.Punctuation
import DocCheck.Text.Quoted
import DocCheck.Text.Range
import DocCheck.Text.Slice
import DocCheck.Text.Utf8
import DocCheck.Word
import DocCheck.Yaml.BlockScalar
import DocCheck.Yaml.Cursor
import DocCheck.Yaml.Node
import DocCheck.Yaml.Plain
import DocCheck.Yaml.Quoted
import DocCheck.Yaml.Scalar
import DocCheck.Yaml.Scan
import DocCheck.Yaml.Tag
import DocCheck.Yaml.Token
import DocCheck.Yaml.Value
