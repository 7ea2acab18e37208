import TypedTemplates.Main
import TypedTemplates.Template.Placeholder
import TypedTemplates.Proofs.Template.Grammar
import TypedTemplates.Proofs.Template.Substitution
import TypedTemplates.Proofs.Store.Sessions
import TypedTemplates.Proofs.Store.Sharing
import TypedTemplates.Proofs.Engine.Consistency
import TypedTemplates.Proofs.Engine.Ledger
import TypedTemplates.Proofs.Engine.Agreement
import TypedTemplates.Proofs.Engine.Saving
import TypedTemplates.Proofs.Engine.Backends
import TypedTemplates.Proofs.Engine.Unsaved
import TypedTemplates.Proofs.Engine.Repeating
import TypedTemplates.Proofs.Template.Faults
import TypedTemplates.Proofs.Template.Composition
import TypedTemplates.Proofs.Command.Assignments
import TypedTemplates.Proofs.Command.Logs
import TypedTemplates.Proofs.Command.Calls
import TypedTemplates.Proofs.Command.Failing
import TypedTemplates.Proofs.Command.Subcommands
import TypedTemplates.Proofs.Template.Spacing
import TypedTemplates.Proofs.Command.Prompts
import TypedTemplates.Proofs.Template.Ranges
import TypedTemplates.Proofs.Template.Changes
import TypedTemplates.Proofs.Command.Reaching
import TypedTemplates.Proofs.Command.Overriding
