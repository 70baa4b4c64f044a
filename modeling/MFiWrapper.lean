import MFiWrapper.Library.Runs
import MFiWrapper.Library.Simulation
import MFiWrapper.Library.Replay
import MFiWrapper.Library.Interleaving
import MFiWrapper.Library.Reassembly
import MFiWrapper.Library.StreamPosition
import MFiWrapper.Library.Halting
import MFiWrapper.Library.DeadZone
import MFiWrapper.Library.FiniteMap
import MFiWrapper.Library.BinaryFloat
import MFiWrapper.Library.FloatEncoding
import MFiWrapper.Library.BitMask
import MFiWrapper.Library.WordBytes
import MFiWrapper.Library.Accesses
import MFiWrapper.Library.CString
import MFiWrapper.Library.FixedBuffer
import MFiWrapper.Library.Channel
import MFiWrapper.Library.Updates
import MFiWrapper.Library.Postponement
import MFiWrapper.Library.Changes
import MFiWrapper.Protocol
import MFiWrapper.Common.Connection
import MFiWrapper.Common.PacketStream
import MFiWrapper.Common.Delivery
import MFiWrapper.Common.StreamSafety
import MFiWrapper.Common.Fragmentation
import MFiWrapper.Common.Announcements
import MFiWrapper.Common.ReaderProgress
import MFiWrapper.Common.Socket
import MFiWrapper.Backend.HIDPad
import MFiWrapper.Backend.AutoCalibration
import MFiWrapper.Backend.AxisContract
import MFiWrapper.Backend.AxisRounding
import MFiWrapper.Backend.Wiimote
import MFiWrapper.Backend.MemoryWrites
import MFiWrapper.Backend.WiimoteHandshake
import MFiWrapper.Backend.HIDPadWiiMote
import MFiWrapper.Backend.WiiMoteRuns
import MFiWrapper.Backend.ReadReplies
import MFiWrapper.Backend.HIDPadWiiUPro
import MFiWrapper.Backend.CalibrationRuns
import MFiWrapper.Backend.ClassicDecoding
import MFiWrapper.Backend.HIDPadPlaystation3
import MFiWrapper.Backend.HIDPadDualShock4
import MFiWrapper.Backend.PadCalls
import MFiWrapper.Backend.PadReports
import MFiWrapper.Backend.Isolation
import MFiWrapper.Backend.ReportBuffer
import MFiWrapper.Backend.PlayerLights
import MFiWrapper.Backend.PlayerLightRuns
import MFiWrapper.Backend.SharedLights
import MFiWrapper.Backend.Interface
import MFiWrapper.Backend.Registry
import MFiWrapper.Backend.TracedIndices
import MFiWrapper.Backend.RegistryRuns
import MFiWrapper.Backend.Attachments
import MFiWrapper.Backend.HIDManager
import MFiWrapper.Backend.StateRanges
import MFiWrapper.Backend.ManagedPads
import MFiWrapper.Backend.PadsAlone
import MFiWrapper.Backend.DeviceRequests
import MFiWrapper.Backend.SameRegistry
import MFiWrapper.Frontend.Controller
import MFiWrapper.Frontend.InputState
import MFiWrapper.Frontend.Capability
import MFiWrapper.Frontend.Dispatch
import MFiWrapper.Frontend.ReceivedPackets
import MFiWrapper.Frontend.Notifications
import MFiWrapper.Frontend.Keyboard
import MFiWrapper.Frontend.HeldKeys
import MFiWrapper.Frontend.KeyboardRuns
import MFiWrapper.Frontend.PausePresses
import MFiWrapper.Frontend.Discovery
import MFiWrapper.Frontend.DiscoveryRuns
import MFiWrapper.Frontend.Handlers
import MFiWrapper.Frontend.Lifecycles
import MFiWrapper.Frontend.Descriptions
import MFiWrapper.Frontend.KeyHooks
import MFiWrapper.Frontend.Callbacks
import MFiWrapper.Frontend.PostponedActions
import MFiWrapper.Frontend.HeardChanges
import MFiWrapper.Session.System
import MFiWrapper.Session.Agreement
import MFiWrapper.Session.VerticalDirection
import MFiWrapper.Session.PlayerIndexes
import MFiWrapper.Session.PlayerIndexRuns
import MFiWrapper.Session.FloatFormat
import MFiWrapper.Session.Process
import MFiWrapper.Session.ShownStates
import MFiWrapper.Session.Refinement
import MFiWrapper.Session.WholeRuns
import MFiWrapper.Session.ShownPlayers
import MFiWrapper.Session.ProcessedPackets
import MFiWrapper.Session.Lifecycles
import MFiWrapper.Session.Pauses
import MFiWrapper.Session.PauseButtons
import MFiWrapper.Session.Descriptions
import MFiWrapper.Session.Callbacks
import MFiWrapper.Session.HeardChanges
import MFiWrapper.BTServerFilter.HCI
import MFiWrapper.BTServerFilter.ReadHook
import MFiWrapper.BTServerFilter.ReadBuffer
import MFiWrapper.BTServerFilter.ReadRuns
import MFiWrapper.BTServerFilter.WriteHook
import MFiWrapper.BTServerFilter.PairingRuns
import MFiWrapper.BTServerFilter.PatchRuns
import MFiWrapper.BTServerFilter.HeaderAccesses
import MFiWrapper.BTServerFilter.NameCapture
import MFiWrapper.BTServerFilter.WriteOutcome
import MFiWrapper.BTServerFilter.PacketPieces
import MFiWrapper.Frontend.Listeners
