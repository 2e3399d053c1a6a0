import Checklist.Main
import Checklist.Proofs.Command.Commuting
import Checklist.Proofs.Command.OtherTasks
import Checklist.Proofs.Command.Registration
import Checklist.Proofs.Program.Endings
import Checklist.Proofs.Program.Simulation
import Checklist.Proofs.Command.WellFormed
import Checklist.Proofs.Log.History
import Checklist.Proofs.TaskFile.Malformed
import Checklist.Proofs.TaskList.Numbered
import Checklist.Proofs.Task.Canonical
import Checklist.Proofs.TaskFile.Joining
import Checklist.Proofs.Command.Footprint
import Checklist.Proofs.Program.Adding
import Checklist.Proofs.TaskList.Undoing
import Checklist.Proofs.TaskFile.TextLines
import Checklist.Proofs.TaskFile.LineEndings
import Checklist.Proofs.Command.Listing
import Checklist.Proofs.Program.Quiet
import Checklist.Proofs.Program.Levels
import Checklist.Proofs.Settings
