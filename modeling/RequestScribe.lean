import RequestScribe.Main
import RequestScribe.Proofs.Capture.Arguments
import RequestScribe.Proofs.Capture.Recovery
import RequestScribe.Proofs.Code.BracketedLiteral
import RequestScribe.Proofs.Code.Nesting
import RequestScribe.Proofs.Command.Batch
import RequestScribe.Proofs.Command.Exchange
import RequestScribe.Proofs.Command.FileReference
import RequestScribe.Proofs.Command.HeaderNames
import RequestScribe.Proofs.Command.Operands
import RequestScribe.Proofs.Command.RedirectLimit
import RequestScribe.Proofs.Command.UserHeader
import RequestScribe.Proofs.CommandLine.Target
import RequestScribe.Proofs.Program.CookieHeader
import RequestScribe.Proofs.Program.FormPayload
import RequestScribe.Proofs.Program.GoImports
import RequestScribe.Proofs.Program.Redaction
import RequestScribe.Proofs.Program.RustCrates
import RequestScribe.Proofs.Program.RustFragment
import RequestScribe.Proofs.Program.RustLiterals
import RequestScribe.Proofs.Program.SelfContained
import RequestScribe.Proofs.Program.VariableLookups
import RequestScribe.Proofs.Program.VariableNames
import RequestScribe.Proofs.Request.FormBody
import RequestScribe.Proofs.Shape.GoFieldNames
import RequestScribe.Proofs.Shape.GoTags
import RequestScribe.Proofs.Shape.IntegerRange
import RequestScribe.Proofs.Shape.RustFieldNames
import RequestScribe.Proofs.Shell.AnsiString
import RequestScribe.Proofs.Shell.Automaton
import RequestScribe.Proofs.Shell.Concatenation
