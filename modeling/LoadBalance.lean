import LoadBalance.Library.Outcome
import LoadBalance.Library.Related
import LoadBalance.Library.Transition
import LoadBalance.Library.Outbox
import LoadBalance.Library.Multimap
import LoadBalance.Library.Scanf
import LoadBalance.Library.Handles
import LoadBalance.Library.Assignments
import LoadBalance.Bson.Basic
import LoadBalance.Bson.Collection
import LoadBalance.Bson.Decoder
import LoadBalance.Bson.FieldTable
import LoadBalance.Bson.Policy
import LoadBalance.Fastotv.Types
import LoadBalance.Mongo.Mongo2Info
import LoadBalance.Mongo.Database
import LoadBalance.Mongo.UserStreams
import LoadBalance.Mongo.Catalogue
import LoadBalance.Mongo.Catchup
import LoadBalance.Mongo.Equiv.Decoders
import LoadBalance.Mongo.Equiv.Catalogue
import LoadBalance.Mongo.Equiv.Uninit
import LoadBalance.Mongo.Equiv.ClientGetChannels
import LoadBalance.Mongo.Equiv.SingleStream
import LoadBalance.Mongo.Equiv.UserState
import LoadBalance.Mongo.Equiv.UserEntries
import LoadBalance.Mongo.Equiv.Catchup
import LoadBalance.Mongo.Equiv.CreateCatchup
import LoadBalance.Mongo.Equiv.Writes
import LoadBalance.Mongo.Equiv.UserCatchups
import LoadBalance.Mongo.Equiv.Links
import LoadBalance.Mongo.Equiv.Evolution
import LoadBalance.Mongo.Equiv.Parts
import LoadBalance.Mongo.Equiv.FindPart
import LoadBalance.Mongo.Equiv.FailedWrites
import LoadBalance.Mongo.Equiv.ForeignStreams
import LoadBalance.Mongo.Equiv.ChannelSource
import LoadBalance.Mongo.Equiv.ExactDecoders
import LoadBalance.Mongo.Equiv.CountedFields
import LoadBalance.Mongo.Equiv.AlikeStreams
import LoadBalance.Mongo.Equiv.AlikeCatalogue
import LoadBalance.Mongo.Equiv.Watching
import LoadBalance.Mongo.Equiv.OutputUrls
import LoadBalance.Mongo.Equiv.MetaUrls
import LoadBalance.Mongo.Equiv.ObjectIds
import LoadBalance.Mongo.Equiv.NullIds
import LoadBalance.Mongo.Equiv.Views
import LoadBalance.System
import LoadBalance.Equiv.Frame
import LoadBalance.Equiv.GenerateCatchup
import LoadBalance.Equiv.Connections
import LoadBalance.Equiv.Credentials
import LoadBalance.Equiv.DistinctCatchups
import LoadBalance.Equiv.Catchups
import LoadBalance.Equiv.OneCatchup
import LoadBalance.Equiv.Durations
import LoadBalance.Equiv.Recordings
import LoadBalance.Equiv.Notifications
import LoadBalance.Equiv.Acknowledged
import LoadBalance.Daemon.CommandsInfo
import LoadBalance.Daemon.ServerInfo
import LoadBalance.Daemon.Equiv.CommandsInfo
import LoadBalance.Daemon.Service
import LoadBalance.Daemon.Config
import LoadBalance.Daemon.Equiv.Config
import LoadBalance.Daemon.NodeStats
import LoadBalance.Subscribers.Responses
import LoadBalance.Subscribers.PingTimer
import LoadBalance.Equiv.Events
import LoadBalance.Equiv.DaemonLoop
import LoadBalance.Equiv.Activation
import LoadBalance.Equiv.Stopping
import LoadBalance.Equiv.Served
import LoadBalance.Equiv.Online
import LoadBalance.Equiv.Delivery
import LoadBalance.Equiv.Snapshots
import LoadBalance.Equiv.Evolution
import LoadBalance.Equiv.DatabaseEffects
import LoadBalance.Equiv.Login
import LoadBalance.Equiv.Identity
import LoadBalance.Equiv.Answers
import LoadBalance.Equiv.AbsentValues
import LoadBalance.Equiv.Bans
import LoadBalance.Equiv.Isolation
import LoadBalance.Equiv.Confinement
import LoadBalance.Equiv.ContentRequests
import LoadBalance.Equiv.InputOnly
import LoadBalance.Equiv.Admission
import LoadBalance.Equiv.Devices
import LoadBalance.Equiv.NoAborts
import LoadBalance.Equiv.Registrations
import LoadBalance.Equiv.PingTimer
import LoadBalance.Equiv.PendingRequests
import LoadBalance.Equiv.RequestEffects
import LoadBalance.Equiv.CommandGate
import LoadBalance.Equiv.Views
import LoadBalance.Equiv.Watchers
import LoadBalance.Equiv.OneResponse
import LoadBalance.Daemon.Equiv.NodeStats
import LoadBalance.Daemon.ProcFiles
import LoadBalance.Daemon.Equiv.ProcFiles
import LoadBalance.Mongo.Equiv.SeriesTotals
import LoadBalance.Mongo.Engine
import LoadBalance.Mongo.Equiv.Engine
