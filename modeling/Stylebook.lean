import Stylebook.Build
import Stylebook.Check.Constraint
import Stylebook.Check.Reference
import Stylebook.Check.Schema
import Stylebook.Check.Usage
import Stylebook.Combination
import Stylebook.Command.Basic
import Stylebook.Command.Run
import Stylebook.Command.Words
import Stylebook.Component
import Stylebook.Console.Markup
import Stylebook.Console.Picture
import Stylebook.Constraint
import Stylebook.Constraint.Evaluation
import Stylebook.Constraint.Wording
import Stylebook.Decoding.Decoded
import Stylebook.Decoding.Detail
import Stylebook.Decoding.Scalar
import Stylebook.Definition
import Stylebook.DesignSystem
import Stylebook.Dict
import Stylebook.Issue
import Stylebook.Json.Reader
import Stylebook.Json.Writer
import Stylebook.Literal
import Stylebook.Main
import Stylebook.Manifest.Basic
import Stylebook.Manifest.Example
import Stylebook.Manifest.Glossary
import Stylebook.Manifest.Prompt
import Stylebook.Mapping
import Stylebook.Moment
import Stylebook.Number.Arithmetic
import Stylebook.Number.Basic
import Stylebook.Number.Binary64
import Stylebook.Number.Limit
import Stylebook.Number.Reading
import Stylebook.Number.Shortest
import Stylebook.Pairs
import Stylebook.Plugin
import Stylebook.Plugin.Manager
import Stylebook.Proofs.Constraint.Meaning
import Stylebook.Proofs.Property.Membership
import Stylebook.Proofs.Theme.Ancestry
import Stylebook.Proofs.Theme.Depth
import Stylebook.Proofs.Theme.Merge
import Stylebook.Proofs.Theme.PlainRecursion
import Stylebook.Proofs.Theme.Resolution
import Stylebook.Proofs.Theme.Walk
import Stylebook.Proofs.Usage.Acceptance
import Stylebook.Proofs.Usage.Concretisation
import Stylebook.Proofs.Usage.Issues
import Stylebook.Property
import Stylebook.Scope
import Stylebook.Source.Data
import Stylebook.Source.FileTree
import Stylebook.Source.Load
import Stylebook.Source.Path
import Stylebook.Stylesheet.Basic
import Stylebook.Stylesheet.Compile
import Stylebook.Stylesheet.Minify
import Stylebook.Stylesheet.Theme
import Stylebook.Text.Base64
import Stylebook.Text.Blank
import Stylebook.Text.Cut
import Stylebook.Text.Digit
import Stylebook.Text.Lower
import Stylebook.Text.Pattern
import Stylebook.Text.Position
import Stylebook.Text.Printable
import Stylebook.Text.Quoted
import Stylebook.Text.Ranges
import Stylebook.Text.Utf8
import Stylebook.Text.Word
import Stylebook.Theme
import Stylebook.Theme.Apply
import Stylebook.Theme.Preset
import Stylebook.Theme.Resolve
import Stylebook.Token
import Stylebook.Usage
import Stylebook.Value.Basic
import Stylebook.Value.Equal
import Stylebook.Value.Merge
import Stylebook.Value.Record
import Stylebook.Value.Text
import Stylebook.Yaml.BlockText
import Stylebook.Yaml.Cursor
import Stylebook.Yaml.Lexer
import Stylebook.Yaml.Node
import Stylebook.Yaml.Plain
import Stylebook.Yaml.Problem
import Stylebook.Yaml.Property
import Stylebook.Yaml.Quoted
import Stylebook.Yaml.Reader
import Stylebook.Yaml.Scalar
import Stylebook.Yaml.Tag
import Stylebook.Yaml.Timestamp
import Stylebook.Yaml.Token
import Stylebook.Proofs.Dict.Overlay
import Stylebook.Proofs.Theme.Precedence
import Stylebook.Proofs.Plugin.Contribution
import Stylebook.Proofs.Constraint.Decision
import Stylebook.Proofs.Combination.Enumeration
import Stylebook.Proofs.Text.Words
import Stylebook.Proofs.Token.Resolution
import Stylebook.Proofs.Stylesheet.Reference
import Stylebook.Proofs.Manifest.Example
import Stylebook.Proofs.Stylesheet.Short
import Stylebook.Proofs.Decoding.RoundTrip
import Stylebook.Proofs.Theme.Idempotence
import Stylebook.Proofs.Definition.Summary
import Stylebook.Proofs.Definition.Assembly
import Stylebook.Proofs.Number.Overflow
import Stylebook.Proofs.Usage.Completion
import Stylebook.Proofs.Stylesheet.Emptiness
import Stylebook.Proofs.Theme.Locality
import Stylebook.Proofs.Theme.Composition
import Stylebook.Proofs.Theme.Layering
import Stylebook.Proofs.Property.Default
import Stylebook.Proofs.Token.WordByWord
import Stylebook.Proofs.Token.Category
import Stylebook.Proofs.Theme.BaseStyles
import Stylebook.Proofs.Stylesheet.Lossless
import Stylebook.Proofs.Stylesheet.CustomProperty
import Stylebook.Proofs.Stylesheet.Additivity
import Stylebook.Proofs.Stylesheet.Prefix
import Stylebook.Proofs.Combination.Listing
import Stylebook.Proofs.Combination.Ranking
import Stylebook.Proofs.Component.Reference
import Stylebook.Proofs.Manifest.Violation
import Stylebook.Proofs.Traversal
import Stylebook.Proofs.Dict.Erasure
import Stylebook.Proofs.Plugin.Step
import Stylebook.Proofs.Plugin.Atomicity
import Stylebook.Proofs.Plugin.Absence
import Stylebook.Proofs.Plugin.Validators
import Stylebook.Proofs.Source.Grouping
import Stylebook.Proofs.Token.Idempotence
import Stylebook.Proofs.Theme.Preview
import Stylebook.Proofs.Source.Failure
import Stylebook.Proofs.Theme.Malformed
import Stylebook.Proofs.Mapping.Key
import Stylebook.Proofs.Definition.Naming
import Stylebook.Proofs.Value.Merge
import Stylebook.Proofs.Manifest.Description
