import BranchCover.ArgumentList
import BranchCover.Bindings
import BranchCover.CallGraph
import BranchCover.CallSite
import BranchCover.CommandLine.Arguments
import BranchCover.CommandLine.Basic
import BranchCover.Condition.Basic
import BranchCover.Condition.Shape
import BranchCover.DataFlow.Analysis
import BranchCover.DataFlow.Basic
import BranchCover.DataFlow.Use
import BranchCover.Literal.Number
import BranchCover.Literal.Quoted
import BranchCover.Main
import BranchCover.Model.Basic
import BranchCover.Model.Build
import BranchCover.Number.Basic
import BranchCover.Number.Binary64
import BranchCover.Number.Shortest
import BranchCover.Oracle.Assertion
import BranchCover.Oracle.Simulation
import BranchCover.Place
import BranchCover.Plan.Combination
import BranchCover.Plan.WhenEntry
import BranchCover.Project.Config
import BranchCover.Project.FileFilter
import BranchCover.Project.FileTree
import BranchCover.Project.Generation
import BranchCover.Project.Ini
import BranchCover.Project.Path
import BranchCover.Proofs.ArgumentList
import BranchCover.Proofs.Bindings
import BranchCover.Proofs.CallGraph
import BranchCover.Proofs.CallSite
import BranchCover.Proofs.Condition.Decomposition
import BranchCover.Proofs.Condition.LiteralComparison
import BranchCover.Proofs.Condition.OutsideLiterals
import BranchCover.Proofs.Condition.Parentheses
import BranchCover.Proofs.Condition.Precedence
import BranchCover.Proofs.Condition.Shape
import BranchCover.Proofs.Condition.Woven
import BranchCover.Proofs.DataFlow.Firsts
import BranchCover.Proofs.DataFlow.Pairing
import BranchCover.Proofs.DataFlow.Repetition
import BranchCover.Proofs.Except
import BranchCover.Proofs.JoinedArguments
import BranchCover.Proofs.Literal.Quoted
import BranchCover.Proofs.Model.Arena
import BranchCover.Proofs.Model.Enclosure
import BranchCover.Proofs.Model.Lines
import BranchCover.Proofs.Model.Merge
import BranchCover.Proofs.Model.Nesting
import BranchCover.Proofs.Model.Numbering
import BranchCover.Proofs.Model.Ownership
import BranchCover.Proofs.Model.Records
import BranchCover.Proofs.Model.Stamping
import BranchCover.Proofs.Number.Integer
import BranchCover.Proofs.Number.Literal
import BranchCover.Proofs.Number.Reading
import BranchCover.Proofs.Oracle.Arithmetic
import BranchCover.Proofs.Oracle.Body
import BranchCover.Proofs.Oracle.EntryLiteral
import BranchCover.Proofs.Oracle.Expression
import BranchCover.Proofs.Oracle.Messages
import BranchCover.Proofs.Oracle.Negation
import BranchCover.Proofs.Oracle.Simulation
import BranchCover.Proofs.Plan.Assignments
import BranchCover.Proofs.Plan.DigitText
import BranchCover.Proofs.Plan.Draws
import BranchCover.Proofs.Plan.ElseLetter
import BranchCover.Proofs.Plan.ElseNumber
import BranchCover.Proofs.Plan.NumericCase
import BranchCover.Proofs.Plan.Targeted
import BranchCover.Proofs.Plan.WhenEntry
import BranchCover.Proofs.Project.Batches
import BranchCover.Proofs.Project.Bounds
import BranchCover.Proofs.Project.Configuration
import BranchCover.Proofs.Project.Exclusion
import BranchCover.Proofs.Project.FileFilter
import BranchCover.Proofs.Project.FileTree
import BranchCover.Proofs.Project.Interpolation
import BranchCover.Proofs.Project.Path
import BranchCover.Proofs.Project.Rediscovery
import BranchCover.Proofs.Random.Choice
import BranchCover.Proofs.Scope
import BranchCover.Proofs.Suite.Comments
import BranchCover.Proofs.Suite.Grouping
import BranchCover.Proofs.Suite.SharedInstance
import BranchCover.Proofs.Syntax.Handing
import BranchCover.Proofs.Syntax.Malformed
import BranchCover.Proofs.Syntax.Node
import BranchCover.Proofs.Syntax.Origin
import BranchCover.Proofs.Synthesis.Answers
import BranchCover.Proofs.Synthesis.Computation
import BranchCover.Proofs.Synthesis.Drive
import BranchCover.Proofs.Synthesis.ElseTest
import BranchCover.Proofs.Synthesis.EntryTests
import BranchCover.Proofs.Synthesis.IfCoverage
import BranchCover.Proofs.Synthesis.IfLabels
import BranchCover.Proofs.Synthesis.OracleMode
import BranchCover.Proofs.Synthesis.Picking
import BranchCover.Proofs.Synthesis.Run
import BranchCover.Proofs.Synthesis.TestValues
import BranchCover.Proofs.Synthesis.WhenCoverage
import BranchCover.Proofs.Text.Glob
import BranchCover.Proofs.Text.Pieces
import BranchCover.Proofs.Text.Scan
import BranchCover.Proofs.Text.Sorted
import BranchCover.Proofs.Text.Trim
import BranchCover.Proofs.Text.Word
import BranchCover.Proofs.TypeText.Arrow
import BranchCover.Proofs.TypeText.Expression
import BranchCover.Proofs.TypeText.Function
import BranchCover.Proofs.TypeText.Generic
import BranchCover.Proofs.Value.Boundary
import BranchCover.Proofs.Value.Comparator
import BranchCover.Proofs.Value.Comparison
import BranchCover.Proofs.Value.Nesting
import BranchCover.Proofs.Value.Neutral
import BranchCover.Proofs.Value.Pool
import BranchCover.Proofs.Value.Readable
import BranchCover.Proofs.Value.TextEquality
import BranchCover.Random.Twister
import BranchCover.Scope
import BranchCover.Suite.Basic
import BranchCover.Suite.Render
import BranchCover.Suite.Write
import BranchCover.Syntax.Concrete
import BranchCover.Syntax.Conversion
import BranchCover.Syntax.Language
import BranchCover.Syntax.Outline
import BranchCover.Syntax.Tree
import BranchCover.Synthesis.Basic
import BranchCover.Synthesis.Branches
import BranchCover.Synthesis.Drive
import BranchCover.Synthesis.Settings
import BranchCover.Synthesis.Target
import BranchCover.TestCase
import BranchCover.Text.Blank
import BranchCover.Text.CodeRange
import BranchCover.Text.Digit
import BranchCover.Text.Glob
import BranchCover.Text.Integer
import BranchCover.Text.LetterCase
import BranchCover.Text.Lines
import BranchCover.Text.Mention
import BranchCover.Text.Printable
import BranchCover.Text.Quoted
import BranchCover.Text.Scan
import BranchCover.Text.Sorted
import BranchCover.Text.Terminal
import BranchCover.Text.Utf8
import BranchCover.Text.Word
import BranchCover.TypeText
import BranchCover.Value.Atom
import BranchCover.Value.Neutral
import BranchCover.Value.Pool
import BranchCover.Value.Truth
import BranchCover.Warning
