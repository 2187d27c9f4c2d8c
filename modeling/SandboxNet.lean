import SandboxNet.Address
import SandboxNet.Attachment
import SandboxNet.Bridge
import SandboxNet.CommandLine.Arguments
import SandboxNet.CommandLine.Command
import SandboxNet.CommandLine.Grammar
import SandboxNet.CommandLine.Run
import SandboxNet.Config
import SandboxNet.Escalation
import SandboxNet.Host.Basic
import SandboxNet.Host.Call
import SandboxNet.Image
import SandboxNet.IpTool
import SandboxNet.Json
import SandboxNet.Lifecycle
import SandboxNet.NetCall
import SandboxNet.Machine
import SandboxNet.Main
import SandboxNet.Time
import SandboxNet.Name
import SandboxNet.Veth
import SandboxNet.Error
import SandboxNet.Program
import SandboxNet.Sandbox
import SandboxNet.Settings
import SandboxNet.Simulation.FileTree
import SandboxNet.Simulation.Machine
import SandboxNet.Simulation.Network
import SandboxNet.Simulation.Polling
import SandboxNet.Simulation.Supervisor
import SandboxNet.Simulation.World
import SandboxNet.Systemd
import SandboxNet.Text
import SandboxNet.Text.Numbered
import SandboxNet.Text.Utf8
import SandboxNet.Proofs.HostInvariants
import SandboxNet.Proofs.Outcomes
import SandboxNet.Proofs.ManagerOutcomes
import SandboxNet.Proofs.Splice
import SandboxNet.Proofs.AttachmentOutcomes
import SandboxNet.Proofs.QuietRun
import SandboxNet.Proofs.Wiring
import SandboxNet.Proofs.Isolation
import SandboxNet.Proofs.LaunchOrder
import SandboxNet.Proofs.Rollback
import SandboxNet.Proofs.Waiting
import SandboxNet.Proofs.StopShape
import SandboxNet.Proofs.StopTiming
import SandboxNet.Proofs.VethPairs
import SandboxNet.Proofs.CleanupEffect
import SandboxNet.Proofs.Reclaim
import SandboxNet.Proofs.HostRows
import SandboxNet.Proofs.Containment
import SandboxNet.Proofs.CleanupAnswer
import SandboxNet.Proofs.LinkState
import SandboxNet.Proofs.Careful
import SandboxNet.Proofs.SandboxRequests
import SandboxNet.Proofs.Built
import SandboxNet.Proofs.Connected
import SandboxNet.Proofs.Membership
import SandboxNet.Proofs.Remembering
import SandboxNet.Proofs.Restored
import SandboxNet.Proofs.AttachOrder
import SandboxNet.Proofs.AttachSuccess
import SandboxNet.Proofs.Granted
import SandboxNet.Proofs.Recovery
import SandboxNet.Proofs.StartAgain
import SandboxNet.Proofs.AllOrNothing
import SandboxNet.Proofs.MoveOrder
import SandboxNet.Proofs.EscalationLog
import SandboxNet.Proofs.WaitSchedule
import SandboxNet.Proofs.ByteOrder
import SandboxNet.Proofs.PairListing
import SandboxNet.Proofs.PollInterval
import SandboxNet.Proofs.PairDeletion
import SandboxNet.Proofs.Reading
import SandboxNet.Proofs.AddressGrammar
import SandboxNet.Proofs.BridgeAddresses
import SandboxNet.Proofs.Spellings
import SandboxNet.Proofs.DerivedNames
import SandboxNet.Proofs.MachineNames
import SandboxNet.Proofs.ShellWords
import SandboxNet.Proofs.NamespaceDeletion
