import Dialogue.Editor.Service
import Dialogue.Main
import Dialogue.Region.Room
import Dialogue.Session.Host
import Dialogue.Proofs.Session.Faults
import Dialogue.Proofs.Session.Pruning
import Dialogue.Proofs.Session.Retelling
import Dialogue.Proofs.Session.Representation
import Dialogue.Proofs.Session.Nesting
import Dialogue.Proofs.Session.Detours
import Dialogue.Proofs.Session.Termination
import Dialogue.Proofs.Session.Arrival
import Dialogue.Proofs.Body.Survey
import Dialogue.Proofs.Session.Entries
import Dialogue.Proofs.Session.Steering
import Dialogue.Proofs.Script.Issues
import Dialogue.Proofs.Session.Speakers
import Dialogue.Proofs.Editor.Containment
import Dialogue.Proofs.Script.Manuscript
import Dialogue.Proofs.Editor.Diagnosis
import Dialogue.Proofs.Player.Playing
import Dialogue.Proofs.Player.Endless
import Dialogue.Proofs.Session.Extension
import Dialogue.Proofs.Script.Comments
import Dialogue.Proofs.Session.Course
import Dialogue.Proofs.Session.Observing
import Dialogue.Proofs.Session.Startable
import Dialogue.Proofs.Editor.Ledger
import Dialogue.Proofs.Graph.Findings
import Dialogue.Proofs.Line.Loading
import Dialogue.Proofs.Region.Geometry
import Dialogue.Proofs.Region.Checking
import Dialogue.Proofs.Script.Pointing
import Dialogue.Proofs.Region.Findings
import Dialogue.Proofs.Editor.Elements
import Dialogue.Proofs.Export
