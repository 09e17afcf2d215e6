import DevcontainerBridge.Host.HostPorts
import DevcontainerBridge.Host.Capacity
import DevcontainerBridge.Host.BrowserMap
import DevcontainerBridge.Host.Routing
import DevcontainerBridge.Host.Authentication
import DevcontainerBridge.Host.Isolation
import DevcontainerBridge.Host.Leftovers
import DevcontainerBridge.Host.IdleExit
import DevcontainerBridge.Host.PortOrder
import DevcontainerBridge.Host.Target
import DevcontainerBridge.Host.RateLimit
import DevcontainerBridge.Host.FailedForward
import DevcontainerBridge.Host.Status
import DevcontainerBridge.Host.EarlyData
import DevcontainerBridge.Host.Shutdown
import DevcontainerBridge.Host.DrainWait
import DevcontainerBridge.Host.ConnIds
import DevcontainerBridge.Host.UnforwardOrder
import DevcontainerBridge.Control.MessageLoop
import DevcontainerBridge.Control.Handover
import DevcontainerBridge.Control.Clipboard
import DevcontainerBridge.Control.Receiving
import DevcontainerBridge.Host.Capture
import DevcontainerBridge.Container.Resolution
import DevcontainerBridge.Cli.Saving
import DevcontainerBridge.Cli.Config
import DevcontainerBridge.Session.Agreement
import DevcontainerBridge.Session.Enrolment
import DevcontainerBridge.Socket.MirrorFile
import DevcontainerBridge.Cli.Coexistence
import DevcontainerBridge.Socket.Deltas
import DevcontainerBridge.Tunnel.Once
import DevcontainerBridge.Tunnel.Mirrors
import DevcontainerBridge.Cli.TokenStore
import DevcontainerBridge.Protocol.Unambiguous
import DevcontainerBridge.Host.Transfers
import DevcontainerBridge.Cli.Pasting
import DevcontainerBridge.Cli.Restart
import DevcontainerBridge.Container.Reconnecting
import DevcontainerBridge.Session.Scanning
