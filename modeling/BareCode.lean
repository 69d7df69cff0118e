import BareCode.Comment.Strip
import BareCode.Dialect.Extension
import BareCode.Excerpt.Basic
import BareCode.Folder
import BareCode.Main
import BareCode.Request
import BareCode.Proofs.CommandLine.LanguageNames
import BareCode.Proofs.CommandLine.Output
import BareCode.Proofs.Comment.Bystanders
import BareCode.Proofs.Comment.EarliestCut
import BareCode.Proofs.Comment.GuardChoice
import BareCode.Proofs.Comment.Segmentation
import BareCode.Proofs.Excerpt.BlockEnd
import BareCode.Proofs.Excerpt.Coverage
import BareCode.Proofs.Excerpt.Declaration
import BareCode.Proofs.Excerpt.EmptyLines
import BareCode.Proofs.Excerpt.Enclosing
import BareCode.Proofs.Excerpt.Grammar
import BareCode.Proofs.Excerpt.Repeats
import BareCode.Proofs.Excerpt.Selection
import BareCode.Proofs.Excerpt.Verbatim
import BareCode.Proofs.Request.GuardOrder
import BareCode.Proofs.Request.KeepSpaces
import BareCode.Proofs.Strip.Braces
import BareCode.Proofs.Strip.ChangeMarks
import BareCode.Proofs.Strip.CommentAhead
import BareCode.Proofs.Strip.Deletion
import BareCode.Proofs.Strip.InlineFirst
import BareCode.Proofs.Strip.MarkerFree
import BareCode.Proofs.Strip.OnePass
import BareCode.Proofs.Strip.SecondRun
import BareCode.Proofs.Strip.Untouched
import BareCode.Proofs.Text.Canonical
import BareCode.Proofs.Text.Content
import BareCode.Proofs.Text.NewlineRuns
