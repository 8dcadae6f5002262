import SyriusOrbit.Vda5050.Visualization

/-!
# State messages

The structures of `State.hpp`: what a robot reports about maps, orders, loads, actions, power and errors.
-/

namespace SyriusOrbit.Vda5050

open JsonFormat

variable [JsonLibrary]

inductive MapStatus where
  | enabled | disabled
  deriving DecidableEq, Inhabited

instance : JsonEnum MapStatus where
  table := [(.enabled, "ENABLED"), (.disabled, "DISABLED")]

inductive ZoneSetStatus where
  | enabled | disabled
  deriving DecidableEq, Inhabited

instance : JsonEnum ZoneSetStatus where
  table := [(.enabled, "ENABLED"), (.disabled, "DISABLED")]

inductive ZoneRequestType where
  | access | replanning
  deriving DecidableEq, Inhabited

instance : JsonEnum ZoneRequestType where
  table := [(.access, "ACCESS"), (.replanning, "REPLANNING")]

inductive EdgeRequestType where
  | corridor
  deriving DecidableEq, Inhabited

instance : JsonEnum EdgeRequestType where
  table := [(.corridor, "CORRIDOR")]

inductive RequestStatus where
  | requested | granted | revoked | expired
  deriving DecidableEq, Inhabited

instance : JsonEnum RequestStatus where
  table := [(.requested, "REQUESTED"), (.granted, "GRANTED"), (.revoked, "REVOKED"), (.expired, "EXPIRED")]

inductive ActionStatus where
  | waiting | initializing | running | paused | retriable | finished | failed
  deriving DecidableEq, Inhabited

instance : JsonEnum ActionStatus where
  table := [(.waiting, "WAITING"), (.initializing, "INITIALIZING"), (.running, "RUNNING"),
    (.paused, "PAUSED"), (.retriable, "RETRIABLE"), (.finished, "FINISHED"), (.failed, "FAILED")]

inductive OperatingMode where
  | startup | automatic | semiautomatic | intervened | manual | service | teachIn
  deriving DecidableEq, Inhabited

instance : JsonEnum OperatingMode where
  table := [(.startup, "STARTUP"), (.automatic, "AUTOMATIC"), (.semiautomatic, "SEMIAUTOMATIC"),
    (.intervened, "INTERVENED"), (.manual, "MANUAL"), (.service, "SERVICE"), (.teachIn, "TEACH_IN")]

inductive ErrorLevel where
  | warning | urgent | critical | fatal
  deriving DecidableEq, Inhabited

instance : JsonEnum ErrorLevel where
  table := [(.warning, "WARNING"), (.urgent, "URGENT"), (.critical, "CRITICAL"), (.fatal, "FATAL")]

inductive InfoLevel where
  | info | debug
  deriving DecidableEq, Inhabited

instance : JsonEnum InfoLevel where
  table := [(.info, "INFO"), (.debug, "DEBUG")]

inductive ActiveEmergencyStop where
  | manual | remote | none
  deriving DecidableEq, Inhabited

instance : JsonEnum ActiveEmergencyStop where
  table := [(.manual, "MANUAL"), (.remote, "REMOTE"), (.none, "NONE")]

structure Map where
  mapId : String
  mapVersion : String
  mapDescriptor : Option String
  mapStatus : MapStatus
  deriving Inhabited

instance : JsonRecord Map where
  record := Record.make Map.mk
    |>.member "mapId" Map.mapId
    |>.member "mapVersion" Map.mapVersion
    |>.member "mapDescriptor" Map.mapDescriptor
    |>.member "mapStatus" Map.mapStatus

structure ZoneSet where
  zoneSetId : String
  mapId : String
  zoneSetStatus : ZoneSetStatus
  deriving Inhabited

instance : JsonRecord ZoneSet where
  record := Record.make ZoneSet.mk
    |>.member "zoneSetId" ZoneSet.zoneSetId
    |>.member "mapId" ZoneSet.mapId
    |>.member "zoneSetStatus" ZoneSet.zoneSetStatus

structure NodeState where
  nodeId : String
  sequenceId : Int64
  nodeDescriptor : Option String
  released : Bool
  nodePosition : Option NodePosition
  deriving Inhabited

instance : JsonRecord NodeState where
  record := Record.make NodeState.mk
    |>.member "nodeId" NodeState.nodeId
    |>.member "sequenceId" NodeState.sequenceId
    |>.member "nodeDescriptor" NodeState.nodeDescriptor
    |>.member "released" NodeState.released
    |>.member "nodePosition" NodeState.nodePosition

structure EdgeState where
  edgeId : String
  sequenceId : Int64
  edgeDescriptor : Option String
  released : Bool
  trajectory : Option Trajectory
  deriving Inhabited

instance : JsonRecord EdgeState where
  record := Record.make EdgeState.mk
    |>.member "edgeId" EdgeState.edgeId
    |>.member "sequenceId" EdgeState.sequenceId
    |>.member "edgeDescriptor" EdgeState.edgeDescriptor
    |>.member "released" EdgeState.released
    |>.member "trajectory" EdgeState.trajectory

structure LoadLoadDimensions where
  length : Float
  width : Float
  height : Option Float
  deriving Inhabited

instance : JsonRecord LoadLoadDimensions where
  record := Record.make LoadLoadDimensions.mk
    |>.member "length" LoadLoadDimensions.length
    |>.member "width" LoadLoadDimensions.width
    |>.member "height" LoadLoadDimensions.height
  keys_nodup := nodup_length_width_height

structure Load where
  loadId : Option String
  loadType : Option String
  loadPosition : Option String
  boundingBoxReference : Option BoundingBox
  loadDimensions : Option LoadLoadDimensions
  weight : Option Float
  deriving Inhabited

instance : JsonRecord Load where
  record := Record.make Load.mk
    |>.member "loadId" Load.loadId
    |>.member "loadType" Load.loadType
    |>.member "loadPosition" Load.loadPosition
    |>.member "boundingBoxReference" Load.boundingBoxReference
    |>.member "loadDimensions" Load.loadDimensions
    |>.member "weight" Load.weight

structure ZoneRequest where
  requestId : String
  requestType : ZoneRequestType
  zoneId : String
  zoneSetId : String
  requestStatus : RequestStatus
  trajectory : Option Trajectory
  deriving Inhabited

instance : JsonRecord ZoneRequest where
  record := Record.make ZoneRequest.mk
    |>.member "requestId" ZoneRequest.requestId
    |>.member "requestType" ZoneRequest.requestType
    |>.member "zoneId" ZoneRequest.zoneId
    |>.member "zoneSetId" ZoneRequest.zoneSetId
    |>.member "requestStatus" ZoneRequest.requestStatus
    |>.member "trajectory" ZoneRequest.trajectory

structure EdgeRequest where
  requestId : String
  requestType : EdgeRequestType
  edgeId : String
  sequenceId : Int64
  requestStatus : RequestStatus
  deriving Inhabited

instance : JsonRecord EdgeRequest where
  record := Record.make EdgeRequest.mk
    |>.member "requestId" EdgeRequest.requestId
    |>.member "requestType" EdgeRequest.requestType
    |>.member "edgeId" EdgeRequest.edgeId
    |>.member "sequenceId" EdgeRequest.sequenceId
    |>.member "requestStatus" EdgeRequest.requestStatus

structure ActionState where
  actionId : String
  actionType : Option String
  actionDescriptor : Option String
  actionStatus : ActionStatus
  actionResult : Option String
  deriving Inhabited

instance : JsonRecord ActionState where
  record := Record.make ActionState.mk
    |>.member "actionId" ActionState.actionId
    |>.member "actionType" ActionState.actionType
    |>.member "actionDescriptor" ActionState.actionDescriptor
    |>.member "actionStatus" ActionState.actionStatus
    |>.member "actionResult" ActionState.actionResult

structure PowerSupply where
  stateOfCharge : Float
  batteryVoltage : Option Float
  batteryCurrent : Option Float
  batteryHealth : Option Float
  charging : Bool
  range : Option Float
  deriving Inhabited

instance : JsonRecord PowerSupply where
  record := Record.make PowerSupply.mk
    |>.member "stateOfCharge" PowerSupply.stateOfCharge
    |>.member "batteryVoltage" PowerSupply.batteryVoltage
    |>.member "batteryCurrent" PowerSupply.batteryCurrent
    |>.member "batteryHealth" PowerSupply.batteryHealth
    |>.member "charging" PowerSupply.charging
    |>.member "range" PowerSupply.range

structure Translation where
  translationKey : String
  translationValue : String
  deriving Inhabited

instance : JsonRecord Translation where
  record := Record.make Translation.mk
    |>.member "translationKey" Translation.translationKey
    |>.member "translationValue" Translation.translationValue

structure Reference where
  referenceKey : String
  referenceValue : String
  deriving Inhabited

instance : JsonRecord Reference where
  record := Record.make Reference.mk
    |>.member "referenceKey" Reference.referenceKey
    |>.member "referenceValue" Reference.referenceValue

structure Error where
  errorType : String
  errorReferences : Option (List Reference)
  errorDescription : Option String
  errorDescriptionTranslations : Option (List Translation)
  errorHint : Option String
  errorHintTranslations : Option (List Translation)
  errorLevel : ErrorLevel
  deriving Inhabited

instance : JsonRecord Error where
  record := Record.make Error.mk
    |>.member "errorType" Error.errorType
    |>.member "errorReferences" Error.errorReferences
    |>.member "errorDescription" Error.errorDescription
    |>.member "errorDescriptionTranslations" Error.errorDescriptionTranslations
    |>.member "errorHint" Error.errorHint
    |>.member "errorHintTranslations" Error.errorHintTranslations
    |>.member "errorLevel" Error.errorLevel

structure Info where
  infoType : String
  infoReferences : Option (List Reference)
  infoDescriptor : Option String
  infoLevel : InfoLevel
  deriving Inhabited

instance : JsonRecord Info where
  record := Record.make Info.mk
    |>.member "infoType" Info.infoType
    |>.member "infoReferences" Info.infoReferences
    |>.member "infoDescriptor" Info.infoDescriptor
    |>.member "infoLevel" Info.infoLevel

structure SafetyState where
  activeEmergencyStop : ActiveEmergencyStop
  fieldViolation : Bool
  deriving Inhabited

instance : JsonRecord SafetyState where
  record := Record.make SafetyState.mk
    |>.member "activeEmergencyStop" SafetyState.activeEmergencyStop
    |>.member "fieldViolation" SafetyState.fieldViolation

structure State where
  headerId : Int64
  timestamp : String
  version : String
  manufacturer : String
  serialNumber : String
  maps : Option (List Map)
  zoneSets : Option (List ZoneSet)
  orderId : String
  orderUpdateId : Int64
  lastNodeId : String
  lastNodeSequenceId : Int64
  nodeStates : List NodeState
  edgeStates : List EdgeState
  plannedPath : Option PlannedPath
  intermediatePath : Option IntermediatePath
  mobileRobotPosition : Option MobileRobotPosition
  velocity : Option Velocity
  loads : Option (List Load)
  driving : Bool
  paused : Option Bool
  newBaseRequest : Option Bool
  zoneRequests : Option (List ZoneRequest)
  edgeRequests : Option (List EdgeRequest)
  distanceSinceLastNode : Option Float
  actionStates : List ActionState
  instantActionStates : List ActionState
  zoneActionStates : Option (List ActionState)
  powerSupply : PowerSupply
  operatingMode : OperatingMode
  errors : List Error
  information : Option (List Info)
  safetyState : SafetyState
  deriving Inhabited

instance : JsonRecord State where
  record := Record.make State.mk
    |>.member "headerId" State.headerId
    |>.member "timestamp" State.timestamp
    |>.member "version" State.version
    |>.member "manufacturer" State.manufacturer
    |>.member "serialNumber" State.serialNumber
    |>.member "maps" State.maps
    |>.member "zoneSets" State.zoneSets
    |>.member "orderId" State.orderId
    |>.member "orderUpdateId" State.orderUpdateId
    |>.member "lastNodeId" State.lastNodeId
    |>.member "lastNodeSequenceId" State.lastNodeSequenceId
    |>.member "nodeStates" State.nodeStates
    |>.member "edgeStates" State.edgeStates
    |>.member "plannedPath" State.plannedPath
    |>.member "intermediatePath" State.intermediatePath
    |>.member "mobileRobotPosition" State.mobileRobotPosition
    |>.member "velocity" State.velocity
    |>.member "loads" State.loads
    |>.member "driving" State.driving
    |>.member "paused" State.paused
    |>.member "newBaseRequest" State.newBaseRequest
    |>.member "zoneRequests" State.zoneRequests
    |>.member "edgeRequests" State.edgeRequests
    |>.member "distanceSinceLastNode" State.distanceSinceLastNode
    |>.member "actionStates" State.actionStates
    |>.member "instantActionStates" State.instantActionStates
    |>.member "zoneActionStates" State.zoneActionStates
    |>.member "powerSupply" State.powerSupply
    |>.member "operatingMode" State.operatingMode
    |>.member "errors" State.errors
    |>.member "information" State.information
    |>.member "safetyState" State.safetyState

end SyriusOrbit.Vda5050
