import SyriusOrbit.Vda5050.Common

/-!
# Zone sets

The structures of `ZoneSet.hpp`.
-/

namespace SyriusOrbit.Vda5050

open JsonFormat

variable [JsonLibrary]

inductive ZoneZoneType where
  | blocked
  | lineGuided
  | release
  | coordinatedReplanning
  | speedLimit
  | action
  | priority
  | penalty
  | directed
  | bidirected
  deriving DecidableEq, Inhabited

instance : JsonEnum ZoneZoneType where
  table := [(.blocked, "BLOCKED"), (.lineGuided, "LINE_GUIDED"), (.release, "RELEASE"),
    (.coordinatedReplanning, "COORDINATED_REPLANNING"), (.speedLimit, "SPEED_LIMIT"), (.action, "ACTION"),
    (.priority, "PRIORITY"), (.penalty, "PENALTY"), (.directed, "DIRECTED"), (.bidirected, "BIDIRECTED")]

inductive ZoneReleaseLossBehavior where
  | stop | continue_ | evacuate
  deriving DecidableEq, Inhabited

instance : JsonEnum ZoneReleaseLossBehavior where
  table := [(.stop, "STOP"), (.continue_, "CONTINUE"), (.evacuate, "EVACUATE")]

inductive ZoneDirectedLimitation where
  | soft | restricted | strict
  deriving DecidableEq, Inhabited

instance : JsonEnum ZoneDirectedLimitation where
  table := [(.soft, "SOFT"), (.restricted, "RESTRICTED"), (.strict, "STRICT")]

inductive ZoneBidirectedLimitation where
  | soft | restricted
  deriving DecidableEq, Inhabited

instance : JsonEnum ZoneBidirectedLimitation where
  table := [(.soft, "SOFT"), (.restricted, "RESTRICTED")]

structure ZoneAction where
  actionType : String
  actionDescriptor : Option String
  blockingType : BlockingType
  actionParameters : Option StringMap
  retriable : Option Bool
  deriving Inhabited

instance : JsonRecord ZoneAction where
  record := Record.make ZoneAction.mk
    |>.member "actionType" ZoneAction.actionType
    |>.member "actionDescriptor" ZoneAction.actionDescriptor
    |>.member "blockingType" ZoneAction.blockingType
    |>.member "actionParameters" ZoneAction.actionParameters
    |>.member "retriable" ZoneAction.retriable

structure Zone where
  zoneId : String
  zoneType : ZoneZoneType
  zoneDescriptor : Option String
  vertices : List Vertex
  releaseLossBehavior : Option ZoneReleaseLossBehavior
  maximumSpeed : Option Float
  entryActions : Option (List ZoneAction)
  duringActions : Option (List ZoneAction)
  exitActions : Option (List ZoneAction)
  priorityFactor : Option Float
  penaltyFactor : Option Float
  direction : Option Float
  directedLimitation : Option ZoneDirectedLimitation
  bidirectedLimitation : Option ZoneBidirectedLimitation
  deriving Inhabited

instance : JsonRecord Zone where
  record := Record.make Zone.mk
    |>.member "zoneId" Zone.zoneId
    |>.member "zoneType" Zone.zoneType
    |>.member "zoneDescriptor" Zone.zoneDescriptor
    |>.member "vertices" Zone.vertices
    |>.member "releaseLossBehavior" Zone.releaseLossBehavior
    |>.member "maximumSpeed" Zone.maximumSpeed
    |>.member "entryActions" Zone.entryActions
    |>.member "duringActions" Zone.duringActions
    |>.member "exitActions" Zone.exitActions
    |>.member "priorityFactor" Zone.priorityFactor
    |>.member "penaltyFactor" Zone.penaltyFactor
    |>.member "direction" Zone.direction
    |>.member "directedLimitation" Zone.directedLimitation
    |>.member "bidirectedLimitation" Zone.bidirectedLimitation

structure ZoneSetDefinition where
  mapId : String
  zoneSetId : String
  zoneSetDescriptor : Option String
  zones : List Zone
  deriving Inhabited

instance : JsonRecord ZoneSetDefinition where
  record := Record.make ZoneSetDefinition.mk
    |>.member "mapId" ZoneSetDefinition.mapId
    |>.member "zoneSetId" ZoneSetDefinition.zoneSetId
    |>.member "zoneSetDescriptor" ZoneSetDefinition.zoneSetDescriptor
    |>.member "zones" ZoneSetDefinition.zones

structure ZoneSetMessage where
  headerId : Int64
  timestamp : String
  version : String
  manufacturer : String
  serialNumber : String
  zoneSet : ZoneSetDefinition
  deriving Inhabited

instance : JsonRecord ZoneSetMessage where
  record := Record.make ZoneSetMessage.mk
    |>.member "headerId" ZoneSetMessage.headerId
    |>.member "timestamp" ZoneSetMessage.timestamp
    |>.member "version" ZoneSetMessage.version
    |>.member "manufacturer" ZoneSetMessage.manufacturer
    |>.member "serialNumber" ZoneSetMessage.serialNumber
    |>.member "zoneSet" ZoneSetMessage.zoneSet

end SyriusOrbit.Vda5050
