import DesktopAgent.Proofs.Action.Agreement
import DesktopAgent.Proofs.Action.Conversion
import DesktopAgent.Proofs.Action.Grammar
import DesktopAgent.Proofs.Action.Omission
import DesktopAgent.Proofs.Action.Spelling
import DesktopAgent.Proofs.Agent.Budget
import DesktopAgent.Proofs.Agent.Cancelling
import DesktopAgent.Proofs.Agent.Pairing
import DesktopAgent.Proofs.Agent.Recovery
import DesktopAgent.Proofs.Agent.Steering
import DesktopAgent.Proofs.Client.Conversation
import DesktopAgent.Proofs.Client.Reception
import DesktopAgent.Proofs.Display.Cleanup
import DesktopAgent.Proofs.Display.Exposure
import DesktopAgent.Proofs.Display.Freshness
import DesktopAgent.Proofs.Display.Observation
import DesktopAgent.Proofs.Display.Pointer
import DesktopAgent.Proofs.Display.Recognition
import DesktopAgent.Proofs.Display.Screen
import DesktopAgent.Proofs.Display.Startup
import DesktopAgent.Proofs.Display.Unchanged
import DesktopAgent.Proofs.Message.Acceptance
import DesktopAgent.Proofs.Text.Base64
import DesktopAgent.Rehearsal.Bench
