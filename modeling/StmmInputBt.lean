import StmmInputBt.Manager.CancelCompleteness
import StmmInputBt.Manager.SelectedKeys
import StmmInputBt.Manager.OrphanReleases
import StmmInputBt.Manager.NestedSelection
import StmmInputBt.Manager.DeviceRemoval
import StmmInputBt.Server.NullDevice
import StmmInputBt.Server.NullEntries
import StmmInputBt.Server.KeyTypes
import StmmInputBt.Client.Sending
import StmmInputBt.Client.Connections
import StmmInputBt.WireRoundTrip
import StmmInputBt.Client.StateMachine
import StmmInputBt.Client.Removal
import StmmInputBt.Client.Descriptors
import StmmInputBt.Server.Teardown
import StmmInputBt.Window.KeyboardScreen
import StmmInputBt.Window.GridResize
import StmmInputBt.Window.GridRoundTrip
import StmmInputBt.Window.SelectedServer
import StmmInputBt.Window.GridAccess
import StmmInputBt.Window.TokenPositions
import StmmInputBt.Window.CellLookup
import StmmInputBt.Window.PointerAgreement
import StmmInputBt.Window.ConnectButton
import StmmInputBt.Window.TextLog
import StmmInputBt.Client.BoundedBuffer
import StmmInputBt.Manager.Recycler
import StmmInputBt.Remote.ListenerView
import StmmInputBt.Window.EditScreens
import StmmInputBt.Client.RefreshCycle
import StmmInputBt.CommandLine
import StmmInputBt.Window.AddrScreen
