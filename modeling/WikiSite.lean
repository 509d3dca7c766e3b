import WikiSite.Config.Document
import WikiSite.Config.File
import WikiSite.Config.Layer
import WikiSite.Config.Toml
import WikiSite.Config.Value
import WikiSite.Decimal.Binary64
import WikiSite.Decimal.Shortest
import WikiSite.Editor.Answer
import WikiSite.Editor.Completion
import WikiSite.Editor.Diagnostic
import WikiSite.Editor.Hover
import WikiSite.Editor.Params
import WikiSite.Editor.Place
import WikiSite.Json.Reader
import WikiSite.Json.Value
import WikiSite.Json.Writer
import WikiSite.Main
import WikiSite.Page.Admonition
import WikiSite.Page.Block
import WikiSite.Page.Cursor
import WikiSite.Page.Field
import WikiSite.Page.Mention
import WikiSite.Page.Prose
import WikiSite.Page.Wikilink
import WikiSite.Proofs.Json.RoundTrip
import WikiSite.Proofs.Json.Scalar
import WikiSite.Proofs.Json.WellFormed
import WikiSite.Proofs.Rpc.Frame
import WikiSite.Proofs.Rpc.HeaderBlock
import WikiSite.Proofs.Rpc.Message
import WikiSite.Proofs.Rpc.Stream
import WikiSite.Proofs.Site.Claims
import WikiSite.Proofs.Site.ContentFiles
import WikiSite.Proofs.Site.History
import WikiSite.Proofs.Site.Holding
import WikiSite.Proofs.Site.Lookup
import WikiSite.Proofs.Site.Ownership
import WikiSite.Proofs.Table
import WikiSite.Proofs.Text.Cutting
import WikiSite.Proofs.Text.Decimal
import WikiSite.Proofs.Text.Utf8
import WikiSite.Rpc.Frame
import WikiSite.Rpc.Message
import WikiSite.Search.Fuzzy
import WikiSite.Session.Basic
import WikiSite.Session.Documents
import WikiSite.Session.Serve
import WikiSite.Site.Address
import WikiSite.Site.Date
import WikiSite.Site.FileTree
import WikiSite.Site.Filter
import WikiSite.Site.Index
import WikiSite.Site.Lint
import WikiSite.Site.Metadata
import WikiSite.Site.Path
import WikiSite.Site.Person
import WikiSite.Site.Post
import WikiSite.Site.Settings
import WikiSite.Site.Slug
import WikiSite.Site.Uri
import WikiSite.Table
import WikiSite.Text.Accent
import WikiSite.Text.Basic
import WikiSite.Text.Blank
import WikiSite.Text.CaseFold
import WikiSite.Text.Column
import WikiSite.Text.Grapheme
import WikiSite.Text.Letter
import WikiSite.Text.Lines
import WikiSite.Text.Lowercase
import WikiSite.Text.Punycode
import WikiSite.Text.Quoted
import WikiSite.Text.Ranges
import WikiSite.Text.Utf8
import WikiSite.Width
import WikiSite.Yaml.Node
import WikiSite.Yaml.Scalar
import WikiSite.Yaml.Scan
import WikiSite.Yaml.Token
import WikiSite.Yaml.Value
import WikiSite.Proofs.Rpc.Recovery
import WikiSite.Proofs.Session.Dialogue
import WikiSite.Proofs.Site.CanonicalUri
import WikiSite.Proofs.Site.Registration
import WikiSite.Proofs.Session.Reports
import WikiSite.Proofs.Session.Publishing
import WikiSite.Proofs.Session.EditorText
import WikiSite.Proofs.Session.OneFileOnePost
import WikiSite.Proofs.Page.Occurrences
import WikiSite.Proofs.Site.Handles
import WikiSite.Proofs.Editor.Accepting
import WikiSite.Proofs.Site.Inheritance
import WikiSite.Proofs.Site.Withdrawal
import WikiSite.Proofs.Site.EligibleFiles
import WikiSite.Proofs.Page.Stretches
import WikiSite.Proofs.Editor.Agreement
import WikiSite.Proofs.Site.Owners
import WikiSite.Proofs.Site.Contests
import WikiSite.Proofs.Page.LinkGrammar
import WikiSite.Proofs.Page.MentionGrammar
import WikiSite.Proofs.Site.Checks
import WikiSite.Proofs.Editor.InsideLink
import WikiSite.Proofs.Editor.Replacing
import WikiSite.Proofs.Text.Lines
import WikiSite.Proofs.Page.BlockLines
import WikiSite.Proofs.Page.Layout
import WikiSite.Proofs.Site.Splitting
import WikiSite.Proofs.Editor.FieldNames
import WikiSite.Proofs.Editor.Offering
import WikiSite.Proofs.Session.Ending
import WikiSite.Proofs.Text.Columns
import WikiSite.Proofs.Site.FilterText
import WikiSite.Proofs.Json.TextLength
import WikiSite.Proofs.Session.TextLimit
import WikiSite.Proofs.Session.ClientRanges
import WikiSite.Proofs.Text.Lowercase
import WikiSite.Proofs.Site.Spelling
import WikiSite.Proofs.Site.TreeWalk
