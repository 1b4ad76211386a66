import Highlight.Files.Tree
import Highlight.Grammar.Description
import Highlight.Main
import Highlight.Token.Walk
import Highlight.Proofs.Text.Part
import Highlight.Proofs.Token.Tiling
import Highlight.Proofs.Segments.Run
import Highlight.Proofs.Token.Completeness
import Highlight.Proofs.Division.Claims
import Highlight.Proofs.Json.Keys
import Highlight.Proofs.Json.Rows
import Highlight.Proofs.Token.Nodes
import Highlight.Proofs.Token.Locality
import Highlight.Proofs.Division.Places
import Highlight.Proofs.Grammar.Offsets
import Highlight.Proofs.Division.Matched
import Highlight.Proofs.Token.Context
import Highlight.Proofs.Token.Justified
import Highlight.Proofs.Division.Runs
import Highlight.Proofs.Token.Priority
import Highlight.Proofs.Json.Document
import Highlight.Proofs.Json.Lexemes
import Highlight.Proofs.Token.Preorder
import Highlight.Proofs.Terminal.Shown
import Highlight.Proofs.Command.Reproduction
import Highlight.Proofs.Registry.Directory
import Highlight.Proofs.Registry.Aliases
import Highlight.Proofs.Grammar.Leftmost
import Highlight.Proofs.Segments.Dissolve
import Highlight.Proofs.Token.Untyped
import Highlight.Proofs.Segments.Turn
import Highlight.Proofs.Segments.Rescan
import Highlight.Proofs.Table.Scope
import Highlight.Proofs.Config.Override
import Highlight.Proofs.Terminal.Views
import Highlight.Proofs.Style.Description
import Highlight.Proofs.Segments.Frame
import Highlight.Proofs.Grammar.Settings
