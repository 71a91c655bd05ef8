import Phrasebook.Catalog.Basic
import Phrasebook.Catalog.Flatten
import Phrasebook.Catalog.Key
import Phrasebook.Dictionary
import Phrasebook.Interval.Basic
import Phrasebook.Interval.Malformed
import Phrasebook.Interval.Parser
import Phrasebook.Interval.Token
import Phrasebook.Json
import Phrasebook.Locale.Negotiation
import Phrasebook.Locale.Preference
import Phrasebook.Locale.Resolver
import Phrasebook.Locale.Tag
import Phrasebook.Log.Context
import Phrasebook.Log.Event
import Phrasebook.Log.Logged
import Phrasebook.Log.Pipeline
import Phrasebook.Log.Record
import Phrasebook.Log.Session
import Phrasebook.Numeral.Binary64
import Phrasebook.Numeral.Digits
import Phrasebook.Numeral.Integer
import Phrasebook.Numeral.Scientific
import Phrasebook.Numeral.Shortest
import Phrasebook.Plural.Locales
import Phrasebook.Plural.Rule
import Phrasebook.Proofs.Interval.Lexeme
import Phrasebook.Proofs.Interval.Notation
import Phrasebook.Proofs.Interval.Parsing
import Phrasebook.Proofs.Interval.Reading
import Phrasebook.Proofs.Interval.Scan
import Phrasebook.Proofs.Merge
import Phrasebook.Proofs.Numeral.Writing
import Phrasebook.Proofs.Outcome
import Phrasebook.Proofs.Template.AtOnce
import Phrasebook.Proofs.Template.Pieces
import Phrasebook.Proofs.Template.Texts
import Phrasebook.Proofs.Text.Blanks
import Phrasebook.Proofs.Text.Fields
import Phrasebook.Proofs.Translator.Answers
import Phrasebook.Proofs.Translator.Fallback
import Phrasebook.Proofs.Translator.History
import Phrasebook.Proofs.Value
import Phrasebook.Proofs.Variant.Forms
import Phrasebook.Ranking
import Phrasebook.Ranking.Adaptive
import Phrasebook.Ranking.Merge
import Phrasebook.Ranking.Search
import Phrasebook.Settings.Basic
import Phrasebook.Settings.VariableFile
import Phrasebook.Template.Casing
import Phrasebook.Template.Expansion
import Phrasebook.Text.Basic
import Phrasebook.Text.Case
import Phrasebook.Text.Quoted
import Phrasebook.Text.Trim
import Phrasebook.Translator
import Phrasebook.Unicode.Blank
import Phrasebook.Unicode.Case
import Phrasebook.Unicode.CaseTable
import Phrasebook.Unicode.Digit
import Phrasebook.Unicode.Letter
import Phrasebook.Unicode.Printable
import Phrasebook.Unicode.Ranges
import Phrasebook.Value
import Phrasebook.Variant.Segment
import Phrasebook.Variant.Selection
import Phrasebook.Proofs.Variant.Writing
import Phrasebook.Proofs.Interval.Prefix
import Phrasebook.Proofs.Variant.Guards
import Phrasebook.Proofs.Variant.Shown
import Phrasebook.Proofs.Template.Unused
import Phrasebook.Proofs.Interval.Defects
import Phrasebook.Proofs.Variant.Table
import Phrasebook.Proofs.Locale.Choice
import Phrasebook.Proofs.Plural.Reach
import Phrasebook.Proofs.Catalog.Messages
import Phrasebook.Proofs.Catalog.Places
import Phrasebook.Proofs.Catalog.Collisions
import Phrasebook.Proofs.Log.Session
import Phrasebook.Proofs.Settings.Sources
import Phrasebook.Proofs.Locale.Acceptance
import Phrasebook.Proofs.Locale.EmptyLocale
import Phrasebook.Proofs.Translator.Atomicity
import Phrasebook.Proofs.Translator.Counting
import Phrasebook.Proofs.Template.Composition
import Phrasebook.Proofs.Text.Ascii
import Phrasebook.Proofs.Template.Casings
import Phrasebook.Proofs.Translator.CountName
import Phrasebook.Proofs.Catalog.Keys
import Phrasebook.Proofs.Plural.Period
import Phrasebook.Proofs.Variant.Failures
import Phrasebook.Proofs.Interval.Layout
import Phrasebook.Proofs.Variant.Runs
import Phrasebook.Proofs.Text.LowerCase
import Phrasebook.Proofs.Locale.NormalForm
import Phrasebook.Proofs.Numeral.Padding
import Phrasebook.Proofs.Locale.Header
import Phrasebook.Proofs.Interval.Literal
import Phrasebook.Proofs.Locale.LanguageClass
