import Circe.Foundations.Run
import Circe.Foundations.FlatMap
import Circe.Foundations.VersionedRegister
import Circe.Foundations.Digits
import Circe.Protocol.MessagesPilot
import Circe.Pilot.CompassKey
import Circe.Pilot.Compass
import Circe.Pilot.KeyText
import Circe.Pilot.Servlets
import Circe.Pilot.CompassRepository
import Circe.Pilot.Server
import Circe.Pilot.ServerSteps
import Circe.Pilot.LockDispositions
import Circe.Pilot.LockExclusion
import Circe.Pilot.LockHistory
import Circe.Pilot.WatchNotification
import Circe.Pilot.CompassRegister
import Circe.Foundations.Codec
import Circe.Common.Platform
import Circe.Common.MessageFilter
import Circe.Common.MagicNumber
import Circe.Common.InterserverConnection
import Circe.Common.Standing
import Circe.Common.WireFormat
import Circe.Common.Authentication
import Circe.Foundations.Lockstep
import Circe.Common.Transport
import Circe.Common.Dispatch
import Circe.Common.Duplex
import Circe.Common.HandshakeOptions
import Circe.Common.InterserverAcceptor
import Circe.Common.Replay
import Circe.Common.Handshake
import Circe.Common.CipherSeeds
import Circe.Common.PromiseSettlement
import Circe.Common.RequestResponse
import Circe.Websocket.Delivery
import Circe.Websocket.MessageRelay
import Circe.Box.ShadowSessions
import Circe.Box.Closure
import Circe.Box.GateSweep
import Circe.Foyer.Broadcast
import Circe.Foundations.Multimap
import Circe.Gate.ClientHttpSession
import Circe.Gate.HeaderRelay
import Circe.Gate.IpBanList
import Circe.Gate.FloodBans
import Circe.Gate.RateLimit
import Circe.Gate.ClientSessions
import Circe.Gate.BannedClients
import Circe.Common.FailingRequests
import Circe.Common.InterserverConnector
import Circe.Common.TimerProc
import Circe.Gate.ResponseBody
import Circe.Foundations.CipherFeedback
import Circe.Common.ByteFeedback
import Circe.Pilot.RepositoryIndex
import Circe.Gate.BanCauses
import Circe.Gate.AuthFailures
import Circe.Gate.PrivateAddresses
import Circe.Gate.SessionRequests
import Circe.Websocket.ClientRelay
import Circe.Foundations.Tally
import Circe.Websocket.SessionClosure
import Circe.Gate.Authorization
import Circe.Gate.RelayedOnce
import Circe.Pilot.StoreRefinement
import Circe.Pilot.CompassTable
import Circe.Pilot.Restart
import Circe.Pilot.WatchedCopy
import Circe.Common.RemoteCall
import Circe.Foyer.RelayedCalls
