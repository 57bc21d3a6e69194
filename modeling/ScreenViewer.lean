import ScreenViewer.Lib.Runs
import ScreenViewer.Lib.Segments
import ScreenViewer.SocketBase.AsyncRead
import ScreenViewer.SocketBase.Duplex
import ScreenViewer.Bridge
import ScreenViewer.Bridge.Teardown
import ScreenViewer.ServerSessionsManager.Registrations
import ScreenViewer.ServerSessionsManager.Cleaner
import ScreenViewer.Server.Invariant
import ScreenViewer.Server.AuthenticationGate
import ScreenViewer.Server.Ownership
import ScreenViewer.Server.FailedRequests
import ScreenViewer.ClientSocket
import ScreenViewer.UsersManager.SharedConnection
import ScreenViewer.ScreenViewerStreamer.Input
import ScreenViewer.ScreenViewerStreamer.Reader
import ScreenViewer.RemoteControl.Pointer
import ScreenViewer.RemoteControl.Buttons
import ScreenViewer.Server.Execution
import ScreenViewer.Server.Sockets
import ScreenViewer.Server.Acknowledgement
import ScreenViewer.Server.Script
import ScreenViewer.Server.Bridges
import ScreenViewer.Server.Pairing
import ScreenViewer.Lib.Loops
import ScreenViewer.ScreenViewerClient.Polling
import ScreenViewer.ScreenViewerStreamer.Screenshots
import ScreenViewer.SocketBase.Disconnect
import ScreenViewer.ClientSocket.ContextThread
import ScreenViewer.UsersManager.CredentialStore
import ScreenViewer.ServerSessionsManager.Timeouts
import ScreenViewer.X11IOController.CaptureCursor
import ScreenViewer.X11IOController.Hotspot
import ScreenViewer.Server.Replies
import ScreenViewer.EventData.Encoding
import ScreenViewer.Lib.Matchmaking
import ScreenViewer.Server.Refinement
import ScreenViewer.Server.Isolation
import ScreenViewer.ClientSocket.Requests
import ScreenViewer.Apps
import ScreenViewer.Server.Outbound
import ScreenViewer.Server.Programs
import ScreenViewer.VideoDecoder
import ScreenViewer.ScreenViewerClient.RunLoop
import ScreenViewer.RemoteControl.EndToEnd
import ScreenViewer.Lib.Progress
import ScreenViewer.Server.Delivery
import ScreenViewer.Server.Liveness
