import Questionnaire.Answer.Basic
import Questionnaire.Answer.Json
import Questionnaire.Calendar.Date
import Questionnaire.Calendar.Parse
import Questionnaire.CommandLine.Grammar
import Questionnaire.CommandLine.Parse
import Questionnaire.CommandLine.Run
import Questionnaire.CommandLine.Similar
import Questionnaire.Config
import Questionnaire.Decimal.Binary
import Questionnaire.Decimal.Layout
import Questionnaire.Decimal.Read
import Questionnaire.Decimal.Shortest
import Questionnaire.Failure
import Questionnaire.Flow.PageCheck
import Questionnaire.Flow.Session
import Questionnaire.Flow.Stepper
import Questionnaire.Ids
import Questionnaire.Json.Decode
import Questionnaire.Json.Error
import Questionnaire.Json.Number
import Questionnaire.Json.Scan
import Questionnaire.Json.Stream
import Questionnaire.Json.Value
import Questionnaire.Json.Write
import Questionnaire.Main
import Questionnaire.Pattern.Automaton
import Questionnaire.Pattern.Classes
import Questionnaire.Pattern.Expr
import Questionnaire.Pattern.Message
import Questionnaire.Pattern.Nesting
import Questionnaire.Pattern.Parse
import Questionnaire.Pattern.Regex
import Questionnaire.Pattern.Size
import Questionnaire.Pattern.Syntax
import Questionnaire.Pattern.Tally
import Questionnaire.Pattern.Translate
import Questionnaire.Pattern.Trie
import Questionnaire.Pattern.Unicode.Age
import Questionnaire.Pattern.Unicode.Break
import Questionnaire.Pattern.Unicode.Category
import Questionnaire.Pattern.Unicode.Fold
import Questionnaire.Pattern.Unicode.Property
import Questionnaire.Pattern.Unicode.Ranges
import Questionnaire.Pattern.Unicode.Script
import Questionnaire.Pattern.Unicode.ScriptExtension
import Questionnaire.Pattern.Utf8
import Questionnaire.Rules.Condition
import Questionnaire.Rules.Eval
import Questionnaire.Rules.Json
import Questionnaire.Rules.Literal
import Questionnaire.Rules.Outcome
import Questionnaire.Rules.Rule
import Questionnaire.Schema.Field
import Questionnaire.Schema.Form
import Questionnaire.Schema.Integrity
import Questionnaire.Schema.Json
import Questionnaire.Text.Blank
import Questionnaire.Text.Lower
import Questionnaire.Text.Quoted
import Questionnaire.Text.Ranges
import Questionnaire.Validation.Catalog
import Questionnaire.Validation.Check
import Questionnaire.Validation.Compile
import Questionnaire.Validation.Email
import Questionnaire.Proofs.Evaluation
import Questionnaire.Proofs.Reads
import Questionnaire.Proofs.PageCheck
import Questionnaire.Proofs.Required
import Questionnaire.Proofs.Session
import Questionnaire.Proofs.Integrity
import Questionnaire.Proofs.Stepper
import Questionnaire.Proofs.Submit
import Questionnaire.Proofs.Decoding
import Questionnaire.Proofs.Roundtrip
import Questionnaire.Proofs.RepeatedIds
import Questionnaire.Proofs.Reorder
