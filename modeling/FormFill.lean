import FormFill.Logging
import FormFill.Main
import FormFill.Record.Normalized
import FormFill.Record.Size
import FormFill.Proofs.Act
import FormFill.Proofs.Act.Confined
import FormFill.Proofs.Act.Calls
import FormFill.Proofs.Schema.Checked
import FormFill.Proofs.Form.Components
import FormFill.Proofs.Record.Rendering
import FormFill.Proofs.Record.Agreement
import FormFill.Proofs.Browser.Endings
import FormFill.Proofs.Browser.Interaction
import FormFill.Proofs.Browser.Pacing
import FormFill.Proofs.Browser.Locating
import FormFill.Proofs.Browser.Handling
import FormFill.Proofs.Browser.Finding
import FormFill.Proofs.Browser.Launching
import FormFill.Proofs.Browser.Closing
import FormFill.Proofs.Browser.Resources
import FormFill.Proofs.Action.Interaction
import FormFill.Proofs.Action.Handling
import FormFill.Proofs.Executor
import FormFill.Proofs.Executor.Handling
import FormFill.Proofs.Files.Folders
import FormFill.Proofs.Files.Writing
import FormFill.Proofs.Identifier.Store
import FormFill.Proofs.Identifier.LeadingInt
import FormFill.Proofs.Identifier.Next
import FormFill.Proofs.Identifier.Sequence
import FormFill.Proofs.Identifier.Distinct
import FormFill.Proofs.Identifier.Persistence
import FormFill.Proofs.Run.Preparing
import FormFill.Proofs.Run.Steps
import FormFill.Proofs.Run.Events
import FormFill.Proofs.Run.Outcomes
import FormFill.Proofs.Run.Identifiers
import FormFill.Proofs.Run.Submitting
import FormFill.Proofs.Run.Agreement
import FormFill.Proofs.CommandLine.Dispatching
import FormFill.Proofs.CommandLine.Loading
import FormFill.Proofs.CommandLine.Closing
import FormFill.Proofs.CommandLine.Starting
import FormFill.Proofs.CommandLine.Reporting
import FormFill.Proofs.CommandLine.Overriding
import FormFill.Proofs.Act.Growing
import FormFill.Proofs.Address
import FormFill.Proofs.Run.Opening
import FormFill.Proofs.Run.Granting
import FormFill.Proofs.Action.Entering
import FormFill.Proofs.CommandLine.Waiting
import FormFill.Proofs.Act.Adding
import FormFill.Proofs.Action.Keying
import FormFill.Proofs.Action.Texts
import FormFill.Proofs.Form.Spelling
import FormFill.Proofs.Run.Pacing
import FormFill.Proofs.Act.Built
import FormFill.Proofs.Act.Returning
import FormFill.Proofs.Run.Reordering
import FormFill.Proofs.Executor.Reaching
import FormFill.Proofs.Action.Tagging
import FormFill.Proofs.Action.Clicking
import FormFill.Proofs.CommandLine.Launching
import FormFill.Proofs.Action.Content
import FormFill.Proofs.Action.TagInput
import FormFill.Proofs.Action.Comparing
import FormFill.Proofs.Action.Unscoped
import FormFill.Proofs.Record.Addressing
import FormFill.Proofs.Executor.Unlocated
import FormFill.Proofs.Field.Keywise
import FormFill.Proofs.Field.Switching
import FormFill.Proofs.Files.Keeping
import FormFill.Proofs.Identifier.Saving
import FormFill.Proofs.Record.Entries
import FormFill.Proofs.Record.Size
import FormFill.Proofs.Record.Normalized
