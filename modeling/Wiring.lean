import Wiring.Main
import Wiring.Proofs.Graph.Validity
import Wiring.Proofs.Precedence
import Wiring.Proofs.Graph.Contents
import Wiring.Proofs.Graph.Order
import Wiring.Proofs.Classification.Relations
import Wiring.Proofs.Annotation.Notation
import Wiring.Proofs.Annotation.Layout
import Wiring.Proofs.Annotation.Names
import Wiring.Proofs.Annotation.Expressions
import Wiring.Proofs.Annotation.Spelling
import Wiring.Proofs.Annotation.Values
import Wiring.Proofs.Annotation.RoundTrip
import Wiring.Proofs.Annotation.Print
import Wiring.Proofs.Graph.Reference
import Wiring.Proofs.Classification.Stereotypes
import Wiring.Proofs.Java.Places
import Wiring.Proofs.Java.Mending
import Wiring.Proofs.Dot.Reader
import Wiring.Proofs.Dot.Tokens
import Wiring.Proofs.Dot.Faithful
import Wiring.Proofs.Graph.Absorption
import Wiring.Proofs.Analysis.Copies
import Wiring.Proofs.Analysis.Irrelevance
import Wiring.Proofs.Dot.Declared
import Wiring.Proofs.Dot.Coverage
import Wiring.Proofs.Annotation.Positions
import Wiring.Proofs.Annotation.Progress
import Wiring.Proofs.Dot.Sections
import Wiring.Proofs.Export.Rows
import Wiring.Proofs.Export.Replay
import Wiring.Proofs.Export.Views
import Wiring.Proofs.Project.Paths
import Wiring.Proofs.Project.Walker
import Wiring.Proofs.Classification.Shorthand
import Wiring.Proofs.Solid
import Wiring.Proofs.Annotation.Outcomes
import Wiring.Proofs.Annotation.ClassNames
import Wiring.Proofs.Analysis.Names
import Wiring.Proofs.Annotation.Comments
import Wiring.Proofs.Files.Entries
import Wiring.Proofs.Files.Places
import Wiring.Proofs.Files.Writing
import Wiring.Proofs.Files.Kinds
import Wiring.Proofs.Split
import Wiring.Proofs.Command.Settings
import Wiring.Proofs.Command.Publishing
import Wiring.Proofs.Command.Status
import Wiring.Proofs.TypeName.Notation
import Wiring.Proofs.TypeName.Bare
import Wiring.Proofs.TypeName.Reduction
import Wiring.Proofs.Classification.Methods
import Wiring.Proofs.Java.Construct
import Wiring.Proofs.Java.Shape
import Wiring.Proofs.Java.Sites
import Wiring.Proofs.Java.Declares
import Wiring.Proofs.Java.SourceOrder
import Wiring.Proofs.Classification.Embellishment
import Wiring.Proofs.Dot.Identifiers
import Wiring.Proofs.Dot.Groups
import Wiring.Proofs.Annotation.Lexemes
import Wiring.Proofs.Annotation.TextBlocks
import Wiring.Proofs.Annotation.Extent
import Wiring.Proofs.Annotation.Strings
import Wiring.Proofs.Annotation.Cuts
import Wiring.Proofs.Annotation.Truncation
import Wiring.Proofs.Annotation.Scripts
import Wiring.Proofs.Classification.CustomStereotypes
import Wiring.Proofs.Graph.Frame
import Wiring.Proofs.Setup.Marks
import Wiring.Proofs.Setup.Calls
import Wiring.Proofs.Counts
import Wiring.Proofs.Export.Summary
import Wiring.Proofs.Packages
import Wiring.Proofs.Graph.Reach
