import CardText.Attribute
import CardText.Card.Literal
import CardText.Card.Numeral
import CardText.Card.ReadError
import CardText.Card.Reader
import CardText.Catalog.Basic
import CardText.Catalog.Effects
import CardText.Catalog.Entry
import CardText.Command.Arguments
import CardText.Command.Log
import CardText.Command.Run
import CardText.Command.Workspace
import CardText.Decimal.Binary64
import CardText.Decimal.Shortest
import CardText.Document.Basic
import CardText.Document.Compile
import CardText.Document.Json
import CardText.Effect.Ability
import CardText.Effect.Basic
import CardText.Effect.Json
import CardText.Fact.Basic
import CardText.Fact.Table
import CardText.Json
import CardText.Main
import CardText.OrderedMap
import CardText.Pattern.Basic
import CardText.Pattern.Phrases
import CardText.Settings.Literal
import CardText.Settings.Reader
import CardText.Text.Character
import CardText.Text.Position
import CardText.Text.Quoted
import CardText.Tier
import CardText.Proofs.Card.Format
import CardText.Proofs.Card.Lines
import CardText.Proofs.Card.Literal
import CardText.Proofs.Card.Reading
import CardText.Proofs.Card.RoundTrip
import CardText.Proofs.Card.Table
import CardText.Proofs.Card.Truncation
import CardText.Proofs.Catalog.Kinds
import CardText.Proofs.Catalog.NumberPhrases
import CardText.Proofs.Catalog.NumberedLines
import CardText.Proofs.Catalog.Range
import CardText.Proofs.Catalog.Recognition
import CardText.Proofs.Catalog.Writes
import CardText.Proofs.Command.Log
import CardText.Proofs.Command.Run
import CardText.Proofs.Command.Workspace
import CardText.Proofs.Document.Agreement
import CardText.Proofs.Document.Attributes
import CardText.Proofs.Document.DefaultCard
import CardText.Proofs.Document.Description
import CardText.Proofs.Document.Growth
import CardText.Proofs.Document.Json
import CardText.Proofs.Document.NumberedLines
import CardText.Proofs.Document.Numbering
import CardText.Proofs.Document.OneTier
import CardText.Proofs.Document.Placeholders
import CardText.Proofs.Document.Range
import CardText.Proofs.Document.Seconds
import CardText.Proofs.Document.SharedAttributes
import CardText.Proofs.Document.Summary
import CardText.Proofs.Document.Tiers
import CardText.Proofs.Document.Tooltips
import CardText.Proofs.Effect.Chains
import CardText.Proofs.Effect.Json
import CardText.Proofs.Fact.ByCategory
import CardText.Proofs.Fact.Display
import CardText.Proofs.Fact.Presence
import CardText.Proofs.Fact.Queries
import CardText.Proofs.Fact.Table
import CardText.Proofs.Json.Layout
import CardText.Proofs.Json.Parts
import CardText.Proofs.Json.Readability
import CardText.Proofs.Json.Squeeze
import CardText.Proofs.Json.Strings
import CardText.Proofs.OrderedMap
import CardText.Proofs.Pattern.Apart
import CardText.Proofs.Pattern.Search
import CardText.Proofs.Pattern.Spelling
import CardText.Proofs.Settings.RoundTrip
import CardText.Proofs.Text.Decimal
import CardText.Proofs.Text.Position
import CardText.Proofs.Text.Quoted
