import FactoryTest.Lib.Run
import FactoryTest.Lib.History
import FactoryTest.Lib.Framing
import FactoryTest.Lib.OrderedMap
import FactoryTest.Lib.Double
import FactoryTest.Lib.Lines
import FactoryTest.Lib.Bytes
import FactoryTest.Lib.Directory
import FactoryTest.Lib.Crc
import FactoryTest.Json.CJson
import FactoryTest.Json.Serialization
import FactoryTest.Json.Text
import FactoryTest.Json.Compact
import FactoryTest.Lib.JsonGrammar
import FactoryTest.Json.WellFormed
import FactoryTest.Performance.Document
import FactoryTest.Lib.Segments
import FactoryTest.Yaml.Events
import FactoryTest.Yaml.Output
import FactoryTest.Yaml.Parsing
import FactoryTest.Gps.Sentence
import FactoryTest.Gps.Run
import FactoryTest.Upload.Protocol
import FactoryTest.Upload.Uart
import FactoryTest.Upload.Service
import FactoryTest.Upload.Transfer
import FactoryTest.Upload.Ledger
import FactoryTest.Upload.Sending
import FactoryTest.Upload.Verdict
import FactoryTest.Upload.Wire
import FactoryTest.Upload.Receive
import FactoryTest.Ir.Packet
import FactoryTest.Ir.Agreement
import FactoryTest.Ir.Session
import FactoryTest.Ir.Consistency
import FactoryTest.Ir.Reception
import FactoryTest.Ir.Codec
import FactoryTest.Session.Record
import FactoryTest.TestSequence
import FactoryTest.Session.Document
import FactoryTest.Session.Manager
import FactoryTest.Session.Operations
import FactoryTest.Session.Verdicts
import FactoryTest.Session.Files
import FactoryTest.Session.Selection
import FactoryTest.Session.RoundTrip
import FactoryTest.Session.Recovery
import FactoryTest.Session.Atomicity
import FactoryTest.Session.Separation
import FactoryTest.Session.Views
import FactoryTest.Session.Consistency
import FactoryTest.Session.UploadSize
import FactoryTest.Config.Store
import FactoryTest.Config.Normalization
import FactoryTest.Config.Atomicity
import FactoryTest.Config.Settings
import FactoryTest.Logger.Model
import FactoryTest.Logger.Texts
import FactoryTest.Logger.Segments
import FactoryTest.Logger.Rotation
import FactoryTest.Logger.Retention
import FactoryTest.Input.Router
import FactoryTest.Input.Holds
import FactoryTest.Input.Evdev
import FactoryTest.Input.Mapping
import FactoryTest.Input.Scan
import FactoryTest.Lib.Program
import FactoryTest.Fixture.Hid
import FactoryTest.Fixture.World
import FactoryTest.Fixture.Items
import FactoryTest.Fixture.Frames
import FactoryTest.Fixture.Run
import FactoryTest.Fixture.Trail
import FactoryTest.Fixture.Steps
import FactoryTest.Fixture.Power
import FactoryTest.Fixture.Resync
import FactoryTest.Fixture.Walk
import FactoryTest.Fixture.Cleanup
import FactoryTest.Fixture.Outcome
import FactoryTest.Fixture.Guarantees
import FactoryTest.Precheck.Model
import FactoryTest.Precheck.Counters
import FactoryTest.IrFixture.Model
import FactoryTest.IrFixture.Verdict
import FactoryTest.Baking.Service
import FactoryTest.Baking.Books
import FactoryTest.View.Dialog
import FactoryTest.Input.Listeners
import FactoryTest.View.IoTestPage
import FactoryTest.View.Commands
import FactoryTest.View.Typing
import FactoryTest.Process.Output
import FactoryTest.Process.Run
import FactoryTest.Process.Status
import FactoryTest.Process.Deadline
import FactoryTest.Lib.Sweep
import FactoryTest.Audio.Normalization
import FactoryTest.Audio.Streaming
import FactoryTest.Camera.Conversion
import FactoryTest.Lib.Grants
import FactoryTest.Gpio.Lines
import FactoryTest.Gpio.Ownership
import FactoryTest.Gpio.Sysfs
import FactoryTest.Gpio.TestOutputs
import FactoryTest.Session.Progress
import FactoryTest.ViewModel.AppViewModel
import FactoryTest.ViewModel.Sequence
import FactoryTest.ViewModel.Calls
import FactoryTest.App.ScreenManager
import FactoryTest.App.OwnTest
import FactoryTest.Connectivity.Link
import FactoryTest.Connectivity.Freshness
import FactoryTest.Lib.Monitor
import FactoryTest.Cap.Hardware
import FactoryTest.Cap.ChipSelect
import FactoryTest.Cap.Cc1101Verdict
import FactoryTest.Lib.ShellWords
import FactoryTest.DeviceInfo.Registers
import FactoryTest.Upgrade.Service
import FactoryTest.Lib.Plan
import FactoryTest.Upgrade.Trace
import FactoryTest.Upgrade.Progress
import FactoryTest.Performance.CommandLine
import FactoryTest.Upgrade.Page
import FactoryTest.Upgrade.Interleaving
import FactoryTest.Connectivity.Refresh
import FactoryTest.Gpio.Growth
import FactoryTest.View.ExtIoRuns
import FactoryTest.View.KeyboardProgress
import FactoryTest.View.LcdBrightness
