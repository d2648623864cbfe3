import Succession.Drain.Session
import Succession.Lifecycle.Recorder
import Succession.Listener.Session
import Succession.Machine.Launcher
import Succession.Machine.Operator
import Succession.Machine.Serving
import Succession.Main
import Succession.PidFile.Session
import Succession.Server.Echo
import Succession.Server.Service
import Succession.Proofs.Handoff.Slots
import Succession.Proofs.FileSystem.Views
import Succession.Proofs.PidFile.Acquire
import Succession.Proofs.Handoff.Descriptors
import Succession.Proofs.Listener.Pool
import Succession.Proofs.Handoff.Reload
import Succession.Proofs.Handoff.Marker
import Succession.Proofs.Program.Clock
import Succession.Proofs.Handoff.Stages
import Succession.Proofs.Handoff.StartSequence
import Succession.Proofs.FileSystem.Walk
import Succession.Proofs.FileSystem.Spares
import Succession.Proofs.PidFile.Stance
import Succession.Proofs.PidFile.Moves
import Succession.Proofs.PidFile.Abides
import Succession.Proofs.PidFile.Fleet
import Succession.Proofs.PidFile.SingleInstance
import Succession.Proofs.Lifecycle.Conduct
import Succession.Proofs.Lifecycle.Trace
import Succession.Proofs.Lifecycle.Life
import Succession.Proofs.Lifecycle.Turns
import Succession.Proofs.Lifecycle.OneWay
import Succession.Proofs.Lifecycle.Token
import Succession.Proofs.Lifecycle.Hosted
import Succession.Proofs.Drain.Wakeup
import Succession.Proofs.Handoff.Foreign
import Succession.Proofs.Program.Exchanges
import Succession.Proofs.Handoff.FailedTakeOver
import Succession.Proofs.PidFile.Lessons
import Succession.Proofs.PidFile.Command
import Succession.Proofs.PidFile.Addressee
import Succession.Proofs.Handoff.Parent
import Succession.Proofs.Lifecycle.Acts
import Succession.Proofs.Lifecycle.Armory
import Succession.Proofs.Lifecycle.HammerTime
import Succession.Proofs.Drain.Lasting
import Succession.Proofs.Server.Fate
import Succession.Proofs.Server.Ending
import Succession.Proofs.Handoff.Window
import Succession.Proofs.Listener.Places
import Succession.Proofs.Lifecycle.Chronicle
import Succession.Proofs.Lifecycle.Tale
import Succession.Proofs.Lifecycle.Schedule
import Succession.Proofs.Lifecycle.Heed
import Succession.Proofs.Lifecycle.Faithful
import Succession.Proofs.Handoff.Footprint
import Succession.Proofs.Handoff.Grammar
import Succession.Proofs.Listener.Closing
import Succession.Proofs.Server.Loops
import Succession.Proofs.Descriptor.Placement
import Succession.Proofs.Handoff.Inheritance
import Succession.Proofs.PidFile.Release
import Succession.Proofs.Handoff.Relaunch
import Succession.Proofs.Handoff.Retry
import Succession.Proofs.Relay.Threads
import Succession.Proofs.FileSystem.Quiet
import Succession.Proofs.Program.Attempts
import Succession.Proofs.PidFile.Lasting
import Succession.Proofs.PidFile.Taking
import Succession.Proofs.PidFile.Probing
import Succession.Proofs.PidFile.OwnLock
import Succession.Proofs.Listener.Namesakes
import Succession.Proofs.Server.Bindings
import Succession.Proofs.Server.LastLines
import Succession.Proofs.Drain.Resting
import Succession.Proofs.Drain.Lapse
import Succession.Proofs.Drain.Scene
import Succession.Proofs.Drain.Clocked
import Succession.Proofs.Drain.Instants
import Succession.Proofs.Handoff.Codec
import Succession.Proofs.Handoff.LongestRun
