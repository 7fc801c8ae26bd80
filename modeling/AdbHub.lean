import AdbHub.Link.Answers
import AdbHub.Link.Ids
import AdbHub.BackendWatch
import AdbHub.InitialPoll
import AdbHub.Tunnel.Requests
import AdbHub.PolicyEdits
import AdbHub.Tunnel.Owners
import AdbHub.Tunnel.Order
import AdbHub.HubEdit
import AdbHub.Agent.Rounds
import AdbHub.Agent.PairCodes
import AdbHub.ClientCodes
import AdbHub.CommandLine
import AdbHub.Startup
import AdbHub.Trackers
import AdbHub.ProxyConnection
import AdbHub.Daemon.Exits
import AdbHub.Daemon.Release
import AdbHub.Daemon.PrivateLists
import AdbHub.Daemon.Registration
import AdbHub.Agent.Streams
import AdbHub.Agent.Wire
import AdbHub.Backend
import AdbHub.Lib.Publish
import AdbHub.Session
import AdbHub.Proxy
import AdbHub.Tunnel
import AdbHub.Protocol
import AdbHub.IpcStream
import AdbHub.Link.Delivery
import AdbHub.Daemon.Isolation
import AdbHub.Agent.Routes
import AdbHub.HubRouting
import AdbHub.HubSession
import AdbHub.PairCommand
import AdbHub.PairedTracking
import AdbHub.DisabledRoutes
import AdbHub.Daemon.Clients
import AdbHub.Service
import AdbHub.Relay.Jam
import AdbHub.PreferredDevice
import AdbHub.DeviceLists
import AdbHub.NodeEdits
import AdbHub.DeviceCommands
import AdbHub.HiddenDevices
import AdbHub.PeerUid
import AdbHub.SaveFile
import AdbHub.LiveFlags
import AdbHub.Versions
import AdbHub.Agent.Fingerprint
