import CellNet.Binary64
import CellNet.CellId
import CellNet.CommandLine
import CellNet.CommandLine.Grammar
import CellNet.Config
import CellNet.Console
import CellNet.Decimal.Reader
import CellNet.Decimal.Shortest
import CellNet.Decimal.Text
import CellNet.Digraph
import CellNet.Document
import CellNet.Document.Shape
import CellNet.DomainName
import CellNet.DomainName.Direction
import CellNet.DomainName.Joining
import CellNet.DomainName.Mapping
import CellNet.Drawing
import CellNet.FileTree
import CellNet.Highlight
import CellNet.Host
import CellNet.Host.InMemory
import CellNet.Host.Local
import CellNet.Host.Network
import CellNet.Http
import CellNet.Json.Printer
import CellNet.Json.Reader
import CellNet.Json.Record
import CellNet.Json.Token
import CellNet.Json.Value
import CellNet.Layout
import CellNet.Link
import CellNet.Link.Reader
import CellNet.Load
import CellNet.Main
import CellNet.Markup
import CellNet.Page
import CellNet.Page.Script
import CellNet.Page.Style
import CellNet.Port
import CellNet.Program
import CellNet.Proofs.Exploration
import CellNet.Proofs.Membership
import CellNet.Scene
import CellNet.Server
import CellNet.Server.Action
import CellNet.Server.Answer
import CellNet.Session
import CellNet.Source
import CellNet.Summary
import CellNet.SystemError
import CellNet.Text.Base64
import CellNet.Text.CombiningClass
import CellNet.Text.Composite
import CellNet.Text.Composition
import CellNet.Text.Hex
import CellNet.Text.Mark
import CellNet.Text.Punycode
import CellNet.Text.Split
import CellNet.Text.Table
import CellNet.Text.Unsigned
import CellNet.Text.Utf8
import CellNet.Toml.Reader
import CellNet.Toml.Scalar
import CellNet.Toml.Token
import CellNet.Toml.Value
import CellNet.Topology
import CellNet.Tree
import CellNet.TreeReport
import CellNet.Url
import CellNet.View
import CellNet.Proofs.Closure
import CellNet.Proofs.TwoSided
import CellNet.Proofs.Runs
import CellNet.Proofs.Display
import CellNet.Proofs.Broken
import CellNet.Proofs.Cycles
import CellNet.Proofs.Report
import CellNet.Proofs.RootedTree
import CellNet.Proofs.Coverage
import CellNet.Proofs.Links
import CellNet.Proofs.Drawn
import CellNet.Proofs.LinkNames
import CellNet.Proofs.LinkGrammar
import CellNet.Proofs.ReadingBack
import CellNet.Proofs.ReadingTwice
import CellNet.Proofs.Listing
import CellNet.Proofs.SortedLinks
import CellNet.Proofs.Refusals
import CellNet.Proofs.SameView
import CellNet.Proofs.History
import CellNet.Proofs.Marking
import CellNet.Proofs.Arrangement
import CellNet.Proofs.Stages
import CellNet.Proofs.JsonParts
import CellNet.Proofs.DocumentParts
import CellNet.Proofs.LoadedTopology
import CellNet.Proofs.JoinedDocuments
import CellNet.Proofs.Events
import CellNet.Proofs.Interleaving
import CellNet.Proofs.Reloads
import CellNet.Proofs.EventAnswers
import CellNet.Proofs.Warnings
import CellNet.Proofs.MarkupReader
import CellNet.Proofs.DrawnMarkup
import CellNet.Proofs.Restyling
import CellNet.Proofs.ClassMap
import CellNet.Proofs.Writes
import CellNet.Proofs.CommandEffects
import CellNet.Proofs.NameOrder
import CellNet.Proofs.SameTree
import CellNet.Proofs.SceneElements
import CellNet.Proofs.Tooltips
import CellNet.Proofs.Problems
import CellNet.Proofs.TreeTable
import CellNet.Proofs.GridCount
import CellNet.Proofs.Updates
