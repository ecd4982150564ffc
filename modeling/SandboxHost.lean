import SandboxHost.Main
import SandboxHost.Proofs.Application.Report
import SandboxHost.Proofs.Application.Settings
import SandboxHost.Proofs.Command
import SandboxHost.Proofs.Dialogue.Variants
import SandboxHost.Proofs.Draft.Listing
import SandboxHost.Proofs.Loan
import SandboxHost.Proofs.Memory.History
import SandboxHost.Proofs.Output.Desk
import SandboxHost.Proofs.Session.Fidelity
import SandboxHost.Proofs.Session.Fragments
import SandboxHost.Proofs.Session.Handover
import SandboxHost.Proofs.Session.Independence
import SandboxHost.Proofs.Session.Metering
import SandboxHost.Proofs.Session.Opening
