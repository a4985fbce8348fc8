import LineShell.Machine.Changes
import LineShell.Main
import LineShell.Proofs.Absence
import LineShell.Proofs.AllOrNothing
import LineShell.Proofs.Boundaries
import LineShell.Proofs.Broken
import LineShell.Proofs.Carrying
import LineShell.Proofs.Concluding
import LineShell.Proofs.Descriptors
import LineShell.Proofs.Directory
import LineShell.Proofs.Encoding
import LineShell.Proofs.Failing
import LineShell.Proofs.Grammar
import LineShell.Proofs.Harmless
import LineShell.Proofs.History
import LineShell.Proofs.Launching
import LineShell.Proofs.Lexing
import LineShell.Proofs.Listings
import LineShell.Proofs.Marking
import LineShell.Proofs.Messages
import LineShell.Proofs.Newline
import LineShell.Proofs.Normalizing
import LineShell.Proofs.Offences
import LineShell.Proofs.Outcome
import LineShell.Proofs.Prompting
import LineShell.Proofs.Purposes
import LineShell.Proofs.Reading
import LineShell.Proofs.Rendering
import LineShell.Proofs.Resolution
import LineShell.Proofs.Returning
import LineShell.Proofs.Runs
import LineShell.Proofs.Script
import LineShell.Proofs.Settings
import LineShell.Proofs.Splitting
import LineShell.Proofs.Standing
import LineShell.Proofs.Starting
import LineShell.Proofs.Targets
import LineShell.Proofs.Wildcards
