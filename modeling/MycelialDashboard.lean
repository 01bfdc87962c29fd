import MycelialDashboard.Js.Value
import MycelialDashboard.Js.Map
import MycelialDashboard.Connection.Machine
import MycelialDashboard.Connection.Budget
import MycelialDashboard.Connection.Timers
import MycelialDashboard.Connection.Sockets
import MycelialDashboard.P2P.Peer
import MycelialDashboard.P2P.Messages
import MycelialDashboard.Orchestrator.Messages
import MycelialDashboard.Orchestrator.Hydration
import MycelialDashboard.Hook.P2P
import MycelialDashboard.Hook.Orchestrator
import MycelialDashboard.Hook.Connection
import MycelialDashboard.Hook.Stores
import MycelialDashboard.Hook.Frames
import MycelialDashboard.Hook.Graph
import MycelialDashboard.Hook.Theme
import MycelialDashboard.Components.QRCode
