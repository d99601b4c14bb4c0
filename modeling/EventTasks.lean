import EventTasks.Text.Case
import EventTasks.Text.Blank
import EventTasks.Text.Half
import EventTasks.Text.Cut
import EventTasks.Text.Digest
import EventTasks.Text.Quoted
import EventTasks.Text.Identifier
import EventTasks.Text.Address
import EventTasks.Number.Shortest
import EventTasks.Number.Fixed
import EventTasks.Number.Reading
import EventTasks.Number.Residue
import EventTasks.Naming
import EventTasks.Value
import EventTasks.Key
import EventTasks.Fault
import EventTasks.Slots
import EventTasks.Dictionary
import EventTasks.Gathering
import EventTasks.Emitter
import EventTasks.Emitter.Sound
import EventTasks.Log.Layout
import EventTasks.Log.Spec
import EventTasks.Log.Template
import EventTasks.Log.Clock
import EventTasks.Log.Root
import EventTasks.Settings.Encoding
import EventTasks.Settings.Resolve
import EventTasks.Surroundings
import EventTasks.View
import EventTasks.World
import EventTasks.Library
import EventTasks.Host
import EventTasks.Attribute
import EventTasks.Collection
import EventTasks.Equality
import EventTasks.Iteration
import EventTasks.Storing
import EventTasks.Subscript
import EventTasks.Holding
import EventTasks.Mapping
import EventTasks.Wording
import EventTasks.Rendering
import EventTasks.Options
import EventTasks.Runner
import EventTasks.Capability
import EventTasks.Record
import EventTasks.Object
import EventTasks.Contract
import EventTasks.Emitter.Operations
import EventTasks.Task.Construction
import EventTasks.Task.Handlers
import EventTasks.Task.Install
import EventTasks.Task.Forwarding
import EventTasks.Calling
import EventTasks.Viewing
import EventTasks.Script.Step
import EventTasks.Script.Session
import EventTasks.Inquiry
import EventTasks.Proofs.Accounting
import EventTasks.Proofs.Chronicle
import EventTasks.Proofs.Failing
import EventTasks.Proofs.InstallOutcome
import EventTasks.Proofs.LateBinding
import EventTasks.Proofs.Retrying
import EventTasks.Proofs.Story
import EventTasks.Proofs.Shapes
import EventTasks.Proofs.Validity
import EventTasks.Proofs.SideBySide
import EventTasks.Proofs.Unusable
import EventTasks.Proofs.Interference
import EventTasks.Proofs.Entering
import EventTasks.Proofs.Inspecting
import EventTasks.Proofs.Binding
import EventTasks.Proofs.Overrides
import EventTasks.Proofs.Making
import EventTasks.Proofs.Creating
import EventTasks.Proofs.Overriding
import EventTasks.Proofs.Exposing
import EventTasks.Proofs.TaskLifetime
import EventTasks.Proofs.Predicting
import EventTasks.Proofs.Faltering
import EventTasks.Proofs.Lineage
import EventTasks.Proofs.Inheriting
import EventTasks.Proofs.Passing
import EventTasks.Proofs.Pinning
import EventTasks.Proofs.Shadowing
import EventTasks.Proofs.Stripping
import EventTasks.Proofs.Restating
import EventTasks.Proofs.Terminals
import EventTasks.Proofs.Filing
import EventTasks.Proofs.Undoing
import EventTasks.Proofs.EventLawAnswers
