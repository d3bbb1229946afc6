import Shell.Completion
import Shell.Main
import Shell.Proofs.Execute.Isolation
import Shell.Proofs.Execute.Refusal
import Shell.Proofs.Pipeline.Grammar
import Shell.Proofs.Token.Marks
import Shell.Proofs.Token.Rendering
import Shell.Proofs.FileSystem.Regular
import Shell.Proofs.History.Reload
import Shell.Proofs.History.Flushed
import Shell.Proofs.Execute.Invariant
import Shell.Proofs.History.Stages
import Shell.Proofs.History.Session
import Shell.Proofs.Pipeline.Quoting
import Shell.Proofs.Execute.Moments
import Shell.Proofs.Execute.Unknown
import Shell.Proofs.Execute.Agreement
import Shell.Proofs.Path.Normal
import Shell.Proofs.Context.Advance
import Shell.Proofs.Interpreter.Actions
import Shell.Proofs.Command.Names
import Shell.Proofs.Command.Description
import Shell.Proofs.ReadLoop.Attempts
import Shell.Proofs.Execute.Interleaving
import Shell.Proofs.Path.Stack
import Shell.Proofs.Interpreter.Workspace
import Shell.Proofs.History.Growth
import Shell.Proofs.History.RoundTrip
import Shell.Proofs.History.Failure
import Shell.Proofs.History.Listing
import Shell.Proofs.FileSystem.Elsewhere
import Shell.Proofs.Command.Opening
import Shell.Proofs.Execute.Redirection
import Shell.Proofs.Execute.Capture
import Shell.Proofs.Command.Arguments
import Shell.Proofs.Machine.Writer
import Shell.Proofs.Execute.Unwritable
import Shell.Proofs.Execute.Teardown
import Shell.Proofs.Pipeline.Target
import Shell.Proofs.Interpreter.Surrounding
import Shell.Proofs.Completion.Candidates
import Shell.Proofs.Completion.Acceptance
import Shell.Proofs.Token.Closing
import Shell.Proofs.Stream.Sharing
import Shell.Proofs.Execute.Input
import Shell.Proofs.Interpreter.Home
