import NumberedBasic.Batch
import NumberedBasic.Dump
import NumberedBasic.Main
import NumberedBasic.Proofs.Grammar.Longest
import NumberedBasic.Proofs.Input.Chunks
import NumberedBasic.Proofs.Input.ReadBack
import NumberedBasic.Proofs.Listing.Program
import NumberedBasic.Proofs.Machine.BlankLine
import NumberedBasic.Proofs.Machine.Calls
import NumberedBasic.Proofs.Machine.Forward
import NumberedBasic.Proofs.Machine.InPlace
import NumberedBasic.Proofs.Machine.Limit
import NumberedBasic.Proofs.Machine.Loops
import NumberedBasic.Proofs.Machine.Provenance
import NumberedBasic.Proofs.Machine.Renumber
import NumberedBasic.Proofs.Machine.Streaming
import NumberedBasic.Proofs.Program.Loading
import NumberedBasic.Proofs.Runner.Batch
import NumberedBasic.Proofs.Session.Course
import NumberedBasic.Screen.Stage
import NumberedBasic.Screen.View
import NumberedBasic.Proofs.Grammar.Outlook
import NumberedBasic.Proofs.Grammar.Refusal
import NumberedBasic.Proofs.Node.Faithful
import NumberedBasic.Proofs.Grammar.FirstRefused
import NumberedBasic.Proofs.Dialogue.Causality
import NumberedBasic.Proofs.Screen.Gist
import NumberedBasic.Proofs.Screen.Restart
import NumberedBasic.Proofs.Screen.Transcript
import NumberedBasic.Proofs.Screen.Stage
import NumberedBasic.Proofs.Machine.Iteration
import NumberedBasic.Proofs.Machine.Aftermath
import NumberedBasic.Proofs.Grammar.Layout
import NumberedBasic.Proofs.Listing.Bytes
import NumberedBasic.Proofs.Listing.Parentheses
import NumberedBasic.Proofs.Listing.Signs
import NumberedBasic.Proofs.Program.OrderedMap
import NumberedBasic.Proofs.Expr.Polynomial
import NumberedBasic.Proofs.Screen.Newest
import NumberedBasic.Proofs.Screen.Plain
