import WebTidy.Json.Writer
import WebTidy.Main
import WebTidy.Proofs.Stylesheet.Increments
import WebTidy.Proofs.Stylesheet.Growth
import WebTidy.Proofs.Stylesheet.Retidying
import WebTidy.Web.App
import WebTidy.Proofs.Checks.JoinedSources
import WebTidy.Proofs.Text.Words
import WebTidy.Proofs.Markup.Literals
import WebTidy.Proofs.Markup.AttributeScan
import WebTidy.Proofs.Markup.Expressions
import WebTidy.Proofs.Markup.QuotedValues
import WebTidy.Proofs.Stylesheet.FlatSheet
import WebTidy.Proofs.UsedRules
import WebTidy.Proofs.CommandLine.WrittenFile
import WebTidy.Proofs.CommandLine.Invocations
import WebTidy.Proofs.CommandLine.Effects
import WebTidy.Proofs.Text.Captured
import WebTidy.Proofs.Web.Status
import WebTidy.Proofs.CommandLine.TidyRun
import WebTidy.Proofs.FrontEnds
import WebTidy.Proofs.Text.Pattern
import WebTidy.Proofs.Stylesheet.CommentPattern
import WebTidy.Proofs.Stylesheet.Absorption
import WebTidy.Proofs.Stylesheet.BracePairs
import WebTidy.Proofs.Stylesheet.MediaPattern
import WebTidy.Proofs.Stylesheet.MergedBodies
import WebTidy.Proofs.Stylesheet.UnusedSelectors
import WebTidy.Proofs.Markup.QuotedDocuments
import WebTidy.Proofs.Markup.HiddenLiterals
import WebTidy.Proofs.Checks.DiscoveryOrder
import WebTidy.Proofs.Checks.LineEnds
import WebTidy.Proofs.Checks.Suggestions
import WebTidy.Proofs.Checks.TagCounts
