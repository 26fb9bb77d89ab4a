import ToolPolicy.Check
import ToolPolicy.Command.Invocation
import ToolPolicy.Command.Options
import ToolPolicy.Command.Printing
import ToolPolicy.Command.Reach
import ToolPolicy.Command.Run
import ToolPolicy.Console.Action
import ToolPolicy.Console.Cells
import ToolPolicy.Console.Emoji
import ToolPolicy.Console.Layout
import ToolPolicy.Console.Literal.Expression
import ToolPolicy.Console.Literal.Refusal
import ToolPolicy.Console.Literal.Token
import ToolPolicy.Console.Markup
import ToolPolicy.Console.Style
import ToolPolicy.Console.Table
import ToolPolicy.Diagnostics
import ToolPolicy.Fault
import ToolPolicy.Files.FileSystem
import ToolPolicy.Files.Path
import ToolPolicy.Files.Trail
import ToolPolicy.Hook
import ToolPolicy.Json.Reader
import ToolPolicy.Json.Writer
import ToolPolicy.Lint
import ToolPolicy.Log
import ToolPolicy.Main
import ToolPolicy.Policy.Category
import ToolPolicy.Policy.Content
import ToolPolicy.Policy.Engine
import ToolPolicy.Policy.Error
import ToolPolicy.Policy.Flags
import ToolPolicy.Policy.Lines
import ToolPolicy.Policy.PatternCache
import ToolPolicy.Policy.Preparation
import ToolPolicy.Policy.Rule
import ToolPolicy.Policy.RuleEntry
import ToolPolicy.Policy.RuleText
import ToolPolicy.Policy.Safety
import ToolPolicy.Problem
import ToolPolicy.Record.Decision
import ToolPolicy.Record.Field
import ToolPolicy.Record.Permissions
import ToolPolicy.Record.Request
import ToolPolicy.Regex.CharTest
import ToolPolicy.Regex.Flaw
import ToolPolicy.Regex.Matcher
import ToolPolicy.Regex.Parser
import ToolPolicy.Regex.Pattern
import ToolPolicy.Regex.Syntax
import ToolPolicy.Regex.Token
import ToolPolicy.Regex.Width
import ToolPolicy.RuleFile
import ToolPolicy.Scope
import ToolPolicy.Settings
import ToolPolicy.Text.Base64
import ToolPolicy.Text.Basic
import ToolPolicy.Text.CaseTable
import ToolPolicy.Text.CasedTable
import ToolPolicy.Text.CharacterName
import ToolPolicy.Text.Class
import ToolPolicy.Text.LetterTable
import ToolPolicy.Text.LowerCase
import ToolPolicy.Text.NameTable.Alias
import ToolPolicy.Text.NameTable.Ancient
import ToolPolicy.Text.NameTable.Asian
import ToolPolicy.Text.NameTable.Carved
import ToolPolicy.Text.NameTable.Eastern
import ToolPolicy.Text.NameTable.European
import ToolPolicy.Text.NameTable.Form
import ToolPolicy.Text.NameTable.Notation
import ToolPolicy.Text.NameTable.Picture
import ToolPolicy.Text.NameTable.Sign
import ToolPolicy.Text.NameTable.Symbol
import ToolPolicy.Text.Number
import ToolPolicy.Text.PrintTable
import ToolPolicy.Text.Quoted
import ToolPolicy.Text.Utf8
import ToolPolicy.Value.Basic
import ToolPolicy.Value.Binary64
import ToolPolicy.Value.Calendar
import ToolPolicy.Value.Shown
import ToolPolicy.Yaml.Document
import ToolPolicy.Yaml.Flaw
import ToolPolicy.Yaml.Indicator
import ToolPolicy.Yaml.Lexer
import ToolPolicy.Yaml.Moment
import ToolPolicy.Yaml.Node
import ToolPolicy.Yaml.Property
import ToolPolicy.Yaml.Scalar
import ToolPolicy.Yaml.ScalarValue
import ToolPolicy.Yaml.Source
import ToolPolicy.Yaml.Tag
import ToolPolicy.Yaml.Token
import ToolPolicy.Proofs.Alternatives
import ToolPolicy.Proofs.CacheHistory
import ToolPolicy.Proofs.CacheTransparency
import ToolPolicy.Proofs.EntryByEntry
import ToolPolicy.Proofs.LintAgreement
import ToolPolicy.Proofs.HookAnswer
import ToolPolicy.Proofs.LineVerdict
import ToolPolicy.Proofs.MatchBounds
import ToolPolicy.Proofs.Preparation
import ToolPolicy.Proofs.ProjectScope
import ToolPolicy.Proofs.Resumption
import ToolPolicy.Proofs.SettingsFault
import ToolPolicy.Proofs.ToolAnchor
import ToolPolicy.Proofs.ToolReading
import ToolPolicy.Proofs.ToolSequences
import ToolPolicy.Proofs.ScopeVerdict
import ToolPolicy.Proofs.SettingsInfluence
import ToolPolicy.Proofs.RequestInfluence
import ToolPolicy.Proofs.CheckPrediction
import ToolPolicy.Proofs.JsonForm
import ToolPolicy.Proofs.JsonReading
import ToolPolicy.Proofs.YamlScanning
import ToolPolicy.Proofs.YamlScalars
import ToolPolicy.Proofs.YamlTokens
import ToolPolicy.Proofs.VisibleBytes
import ToolPolicy.Proofs.YamlNodes
import ToolPolicy.Proofs.YamlFilling
import ToolPolicy.Proofs.YamlValues
import ToolPolicy.Proofs.Numerals
import ToolPolicy.Proofs.NumberTexts
import ToolPolicy.Proofs.JsonDocuments
import ToolPolicy.Proofs.RuleFileAgreement
import ToolPolicy.Proofs.CalledDecision
import ToolPolicy.Proofs.RulePresence
import ToolPolicy.Proofs.NestedScreen
import ToolPolicy.Proofs.FaultSigns
import ToolPolicy.Proofs.PartFault
import ToolPolicy.Proofs.PatternFault
import ToolPolicy.Proofs.EntryFault
import ToolPolicy.Proofs.EntryFailure
import ToolPolicy.Proofs.Paths
import ToolPolicy.Proofs.RuleShape
import ToolPolicy.Proofs.ScreenPattern
import ToolPolicy.Proofs.NameReading
import ToolPolicy.Proofs.MatchingOptions
import ToolPolicy.Proofs.PlainNames
import ToolPolicy.Proofs.RuleLetters
import ToolPolicy.Proofs.DroppedEntries
import ToolPolicy.Proofs.RequestReading
import ToolPolicy.Proofs.SettingsReading
import ToolPolicy.Proofs.LineView
import ToolPolicy.Proofs.EntryForms
import ToolPolicy.Proofs.JsonDigits
import ToolPolicy.Proofs.InputReport
import ToolPolicy.Proofs.YamlSigns
import ToolPolicy.Proofs.YamlDepth
import ToolPolicy.Proofs.YamlGraphSigns
import ToolPolicy.Proofs.RuleFileFaults
import ToolPolicy.Proofs.SelectedContent
import ToolPolicy.Proofs.GivenContent
import ToolPolicy.Proofs.ScreenedContent
