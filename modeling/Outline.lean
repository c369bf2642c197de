import Outline.Main
import Outline.Proofs.Search
import Outline.Proofs.Function
import Outline.Proofs.Class
import Outline.Proofs.Constructor
import Outline.Proofs.Line
import Outline.Proofs.Pieces
import Outline.Proofs.Global
import Outline.Proofs.Argument
import Outline.Proofs.Barrier
import Outline.Proofs.Overlap
import Outline.Proofs.Append
import Outline.Proofs.Written
import Outline.Proofs.Block
import Outline.Proofs.RoundTrip
import Outline.Proofs.Contract
import Outline.Proofs.Return
import Outline.Proofs.LineEnding
import Outline.Proofs.Escape
import Outline.Proofs.Json
import Outline.Proofs.Prune
import Outline.Proofs.Report
import Outline.Proofs.Utf8
import Outline.Proofs.SourceFile
import Outline.Proofs.Outcome
import Outline.Proofs.Lookup
import Outline.Proofs.Newline
import Outline.Proofs.Place
import Outline.Proofs.ClassGrammar
import Outline.Proofs.FunctionGrammar
import Outline.Proofs.Assignment
import Outline.Proofs.Fragment
import Outline.Proofs.Excerpt
import Outline.Proofs.Note
import Outline.Proofs.SettingsFile
import Outline.Proofs.Finding
import Outline.Proofs.Session
