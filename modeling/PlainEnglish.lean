import PlainEnglish.Json.Read
import PlainEnglish.Json.Write
import PlainEnglish.Program.Node
import PlainEnglish.Compile.Run
import PlainEnglish.Journal.Registry
import PlainEnglish.Catalogue
import PlainEnglish.Settings.Load
import PlainEnglish.Files.Tree
import PlainEnglish.Command.Run
import PlainEnglish.Service.Schema
import PlainEnglish.Service.Respond
import PlainEnglish.Main
import PlainEnglish.Proofs.Grammar.Parse
import PlainEnglish.Proofs.Grammar.Program
import PlainEnglish.Proofs.Grammar.Failure
import PlainEnglish.Proofs.Grammar.Reading
import PlainEnglish.Proofs.Grammar.Scanned
import PlainEnglish.Proofs.Grammar.Concatenation
import PlainEnglish.Proofs.Number.Numeral
import PlainEnglish.Proofs.Number.Plain
import PlainEnglish.Proofs.Text.Split
import PlainEnglish.Proofs.Text.Words
import PlainEnglish.Proofs.Text.Phrase
import PlainEnglish.Proofs.Token.Expression
import PlainEnglish.Proofs.Token.Fragment
import PlainEnglish.Proofs.Token.Line
import PlainEnglish.Proofs.Token.Scan
import PlainEnglish.Proofs.Token.Move
import PlainEnglish.Proofs.Compile.Story
import PlainEnglish.Proofs.Compile.Growth
import PlainEnglish.Proofs.Preview.Alike
import PlainEnglish.Proofs.Preview.Evaluate
import PlainEnglish.Proofs.Preview.Line
import PlainEnglish.Proofs.Preview.Interpreter
import PlainEnglish.Proofs.Preview.Refine
import PlainEnglish.Proofs.Preview.Strings
import PlainEnglish.Proofs.Token.Declared
import PlainEnglish.Proofs.Compile.Strings
import PlainEnglish.Proofs.Program.Written
import PlainEnglish.Proofs.Program.RoundTrip
import PlainEnglish.Proofs.Program.Rendering
import PlainEnglish.Proofs.Preview.Statement
import PlainEnglish.Proofs.Preview.Variables
import PlainEnglish.Proofs.Compile.Printing
import PlainEnglish.Proofs.Compile.Variables
import PlainEnglish.Proofs.Compile.Declared
import PlainEnglish.Proofs.Compile.Numbers
import PlainEnglish.Proofs.Token.Place
import PlainEnglish.Proofs.Token.Layout
import PlainEnglish.Proofs.Grammar.Layout
import PlainEnglish.Proofs.Compile.Layout
import PlainEnglish.Proofs.Grammar.Point
import PlainEnglish.Proofs.Grammar.Earliest
import PlainEnglish.Proofs.Grammar.Session
import PlainEnglish.Proofs.Preview.Chain
import PlainEnglish.Proofs.Json.Text
import PlainEnglish.Proofs.Json.RoundTrip
import PlainEnglish.Proofs.Json.Keys
import PlainEnglish.Proofs.Text.Bytes
import PlainEnglish.Proofs.Text.Newlines
import PlainEnglish.Proofs.Settings.Shown
import PlainEnglish.Proofs.Json.Limits
import PlainEnglish.Proofs.Settings.Load
import PlainEnglish.Proofs.Service.Answer
import PlainEnglish.Proofs.Command.Compile
import PlainEnglish.Proofs.Command.Agreement
import PlainEnglish.Proofs.Command.Words
import PlainEnglish.Proofs.Command.Ending
import PlainEnglish.Proofs.Token.Splitting
import PlainEnglish.Proofs.Text.Columns
import PlainEnglish.Proofs.Token.Segment
import PlainEnglish.Proofs.Token.Column
import PlainEnglish.Proofs.Token.Position
import PlainEnglish.Proofs.Program.Numeral
import PlainEnglish.Proofs.Number.Literal
import PlainEnglish.Proofs.Number.Canonical
import PlainEnglish.Proofs.Preview.Checked
import PlainEnglish.Proofs.Preview.Nameless
import PlainEnglish.Proofs.Usage.Given
import PlainEnglish.Proofs.Journal.Level
import PlainEnglish.Proofs.Settings.Setting
import PlainEnglish.Proofs.Settings.Misfit
import PlainEnglish.Proofs.Command.Level
import PlainEnglish.Proofs.Journal.Registry
import PlainEnglish.Proofs.Journal.Session
import PlainEnglish.Proofs.Token.Listing
import PlainEnglish.Proofs.Catalogue.Slug
