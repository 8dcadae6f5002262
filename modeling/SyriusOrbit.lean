import SyriusOrbit.Mqtt.TypedPublisher
import SyriusOrbit.Mqtt.Proxy
import SyriusOrbit.Projection.ActionTopic
import SyriusOrbit.Projection.Timestamps
import SyriusOrbit.Mqtt.Reconnect
import SyriusOrbit.Mqtt.Startup
import SyriusOrbit.Projection.Cycles
import SyriusOrbit.Projection.Identity
import SyriusOrbit.Projection.Requests
import SyriusOrbit.AuditTrail
import SyriusOrbit.SchemaMigrator
import SyriusOrbit.Mqtt.Delivery
import SyriusOrbit.Mqtt.SetUp
import SyriusOrbit.Mqtt.Bridge
import SyriusOrbit.Mqtt.Uplink
import SyriusOrbit.Mqtt.Lifecycle
import SyriusOrbit.Mqtt.Routing
import SyriusOrbit.Mqtt.Orphans
import SyriusOrbit.Mqtt.TopicFilter
import SyriusOrbit.Mqtt.Brokers
import SyriusOrbit.Shutdown
import SyriusOrbit.Db.Immutable
import SyriusOrbit.Inserts
import SyriusOrbit.Projection.StatusDomains
import SyriusOrbit.Vda5050.ActionParameters
import SyriusOrbit.Db.RobotsRepository
import SyriusOrbit.Db.OrdersRepository
import SyriusOrbit.Db.InstantActionsRepository
import SyriusOrbit.Db.Lookups
import SyriusOrbit.Projection.ActionCapture
import SyriusOrbit.Projection.ProjectorOrder
import SyriusOrbit.Db.Vda5050EventsRepository
import SyriusOrbit.PartialConfig
import SyriusOrbit.Cmake.Lists
import SyriusOrbit.MigrationFiles
import SyriusOrbit.Releases
import SyriusOrbit.Ports
import SyriusOrbit.Mqtt.Balance
import SyriusOrbit.Mqtt.Relay
import SyriusOrbit.Projection.Consistency
import SyriusOrbit.Projection.Thread
import SyriusOrbit.Process
import SyriusOrbit.Termination
import SyriusOrbit.EndToEnd
import SyriusOrbit.Trail
