import SyriusOrbit.Vda5050.Common

/-!
# Fact sheets

The structures of `FactSheet.hpp`.  `MaximumArrayLengths` is the one structure with hand-written conversions: it
leaves absent limits out and is null when it has none.
-/

namespace SyriusOrbit.Vda5050

open JsonFormat

variable [JsonLibrary]

inductive SupportedZoneType where
  | blocked
  | lineGuided
  | release
  | coordinatedReplanning
  | speedLimit
  | action
  | priority
  | penalty
  | directed
  | bidirected
  deriving DecidableEq, Inhabited

instance : JsonEnum SupportedZoneType where
  table := [(.blocked, "BLOCKED"), (.lineGuided, "LINE_GUIDED"), (.release, "RELEASE"),
    (.coordinatedReplanning, "COORDINATED_REPLANNING"), (.speedLimit, "SPEED_LIMIT"), (.action, "ACTION"),
    (.priority, "PRIORITY"), (.penalty, "PENALTY"), (.directed, "DIRECTED"), (.bidirected, "BIDIRECTED")]

inductive SupportType where
  | supported | required
  deriving DecidableEq, Inhabited

instance : JsonEnum SupportType where
  table := [(.supported, "SUPPORTED"), (.required, "REQUIRED")]

inductive ActionScope where
  | instant | node | edge | zone
  deriving DecidableEq, Inhabited

instance : JsonEnum ActionScope where
  table := [(.instant, "INSTANT"), (.node, "NODE"), (.edge, "EDGE"), (.zone, "ZONE")]

inductive ValueDataType where
  | bool | number | integer | string | object | array
  deriving DecidableEq, Inhabited

instance : JsonEnum ValueDataType where
  table := [(.bool, "BOOL"), (.number, "NUMBER"), (.integer, "INTEGER"), (.string, "STRING"),
    (.object, "OBJECT"), (.array, "ARRAY")]

structure TypeSpecification where
  seriesName : String
  seriesDescription : Option String
  mobileRobotKinematics : String
  mobileRobotClass : String
  maximumLoadMass : Float
  localizationTypes : List String
  navigationTypes : List String
  supportedZones : Option (List SupportedZoneType)
  deriving Inhabited

instance : JsonRecord TypeSpecification where
  record := Record.make TypeSpecification.mk
    |>.member "seriesName" TypeSpecification.seriesName
    |>.member "seriesDescription" TypeSpecification.seriesDescription
    |>.member "mobileRobotKinematics" TypeSpecification.mobileRobotKinematics
    |>.member "mobileRobotClass" TypeSpecification.mobileRobotClass
    |>.member "maximumLoadMass" TypeSpecification.maximumLoadMass
    |>.member "localizationTypes" TypeSpecification.localizationTypes
    |>.member "navigationTypes" TypeSpecification.navigationTypes
    |>.member "supportedZones" TypeSpecification.supportedZones

structure PhysicalParameters where
  minimumSpeed : Float
  maximumSpeed : Float
  minimumAngularSpeed : Option Float
  maximumAngularSpeed : Option Float
  maximumAcceleration : Float
  maximumDeceleration : Float
  minimumHeight : Float
  maximumHeight : Float
  width : Float
  length : Float
  deriving Inhabited

instance : JsonRecord PhysicalParameters where
  record := Record.make PhysicalParameters.mk
    |>.member "minimumSpeed" PhysicalParameters.minimumSpeed
    |>.member "maximumSpeed" PhysicalParameters.maximumSpeed
    |>.member "minimumAngularSpeed" PhysicalParameters.minimumAngularSpeed
    |>.member "maximumAngularSpeed" PhysicalParameters.maximumAngularSpeed
    |>.member "maximumAcceleration" PhysicalParameters.maximumAcceleration
    |>.member "maximumDeceleration" PhysicalParameters.maximumDeceleration
    |>.member "minimumHeight" PhysicalParameters.minimumHeight
    |>.member "maximumHeight" PhysicalParameters.maximumHeight
    |>.member "width" PhysicalParameters.width
    |>.member "length" PhysicalParameters.length

structure MaximumStringLengths where
  maximumMessageLength : Option Int64
  maximumTopicSerialLength : Option Int64
  maximumTopicElementLength : Option Int64
  maximumIdLength : Option Int64
  idNumericalOnly : Option Bool
  maximumLoadIdLength : Option Int64
  deriving Inhabited

instance : JsonRecord MaximumStringLengths where
  record := Record.make MaximumStringLengths.mk
    |>.member "maximumMessageLength" MaximumStringLengths.maximumMessageLength
    |>.member "maximumTopicSerialLength" MaximumStringLengths.maximumTopicSerialLength
    |>.member "maximumTopicElementLength" MaximumStringLengths.maximumTopicElementLength
    |>.member "maximumIdLength" MaximumStringLengths.maximumIdLength
    |>.member "idNumericalOnly" MaximumStringLengths.idNumericalOnly
    |>.member "maximumLoadIdLength" MaximumStringLengths.maximumLoadIdLength

structure MaximumArrayLengths where
  orderNodes : Option Int64
  orderEdges : Option Int64
  nodeActions : Option Int64
  edgeActions : Option Int64
  actionsActionsParameters : Option Int64
  instantActions : Option Int64
  trajectoryKnotVector : Option Int64
  trajectoryControlPoints : Option Int64
  zoneSetZones : Option Int64
  stateNodeStates : Option Int64
  stateEdgeStates : Option Int64
  stateLoads : Option Int64
  stateActionStates : Option Int64
  stateInstantActionStates : Option Int64
  stateZoneActionStates : Option Int64
  stateErrors : Option Int64
  stateInformation : Option Int64
  errorErrorReferences : Option Int64
  informationInfoReferences : Option Int64
  deriving Inhabited

instance : SparseRecord MaximumArrayLengths where
  record := Record.make MaximumArrayLengths.mk
    |>.member "order.nodes" MaximumArrayLengths.orderNodes
    |>.member "order.edges" MaximumArrayLengths.orderEdges
    |>.member "node.actions" MaximumArrayLengths.nodeActions
    |>.member "edge.actions" MaximumArrayLengths.edgeActions
    |>.member "actions.actionsParameters" MaximumArrayLengths.actionsActionsParameters
    |>.member "instantActions" MaximumArrayLengths.instantActions
    |>.member "trajectory.knotVector" MaximumArrayLengths.trajectoryKnotVector
    |>.member "trajectory.controlPoints" MaximumArrayLengths.trajectoryControlPoints
    |>.member "zoneSet.zones" MaximumArrayLengths.zoneSetZones
    |>.member "state.nodeStates" MaximumArrayLengths.stateNodeStates
    |>.member "state.edgeStates" MaximumArrayLengths.stateEdgeStates
    |>.member "state.loads" MaximumArrayLengths.stateLoads
    |>.member "state.actionStates" MaximumArrayLengths.stateActionStates
    |>.member "state.instantActionStates" MaximumArrayLengths.stateInstantActionStates
    |>.member "state.zoneActionStates" MaximumArrayLengths.stateZoneActionStates
    |>.member "state.errors" MaximumArrayLengths.stateErrors
    |>.member "state.information" MaximumArrayLengths.stateInformation
    |>.member "error.errorReferences" MaximumArrayLengths.errorErrorReferences
    |>.member "information.infoReferences" MaximumArrayLengths.informationInfoReferences
  default_null := by simp [Record.encode, Record.values, default, instInhabitedMaximumArrayLengths.default, toJson]
  keepPresence := by repeat' first | exact trivial | infer_instance | refine And.intro ?_ ?_

structure Timing where
  minimumOrderInterval : Float
  minimumStateInterval : Float
  defaultStateInterval : Option Float
  visualizationInterval : Option Float
  deriving Inhabited

instance : JsonRecord Timing where
  record := Record.make Timing.mk
    |>.member "minimumOrderInterval" Timing.minimumOrderInterval
    |>.member "minimumStateInterval" Timing.minimumStateInterval
    |>.member "defaultStateInterval" Timing.defaultStateInterval
    |>.member "visualizationInterval" Timing.visualizationInterval

structure ProtocolLimits where
  maximumStringLengths : MaximumStringLengths
  maximumArrayLengths : MaximumArrayLengths
  timing : Timing
  deriving Inhabited

instance : JsonRecord ProtocolLimits where
  record := Record.make ProtocolLimits.mk
    |>.member "maximumStringLengths" ProtocolLimits.maximumStringLengths
    |>.member "maximumArrayLengths" ProtocolLimits.maximumArrayLengths
    |>.member "timing" ProtocolLimits.timing

structure OptionalParameter where
  parameter : String
  support : SupportType
  description : Option String
  deriving Inhabited

instance : JsonRecord OptionalParameter where
  record := Record.make OptionalParameter.mk
    |>.member "parameter" OptionalParameter.parameter
    |>.member "support" OptionalParameter.support
    |>.member "description" OptionalParameter.description

structure ActionParameterSchema where
  key : String
  valueDataType : ValueDataType
  description : Option String
  isOptional : Option Bool
  deriving Inhabited

instance : JsonRecord ActionParameterSchema where
  record := Record.make ActionParameterSchema.mk
    |>.member "key" ActionParameterSchema.key
    |>.member "valueDataType" ActionParameterSchema.valueDataType
    |>.member "description" ActionParameterSchema.description
    |>.member "isOptional" ActionParameterSchema.isOptional

structure MobileRobotAction where
  actionType : String
  actionDescription : Option String
  actionScopes : List ActionScope
  actionParameters : Option (List ActionParameterSchema)
  actionResult : Option String
  blockingTypes : Option (List BlockingType)
  pauseAllowed : Bool
  cancelAllowed : Bool
  deriving Inhabited

instance : JsonRecord MobileRobotAction where
  record := Record.make MobileRobotAction.mk
    |>.member "actionType" MobileRobotAction.actionType
    |>.member "actionDescription" MobileRobotAction.actionDescription
    |>.member "actionScopes" MobileRobotAction.actionScopes
    |>.member "actionParameters" MobileRobotAction.actionParameters
    |>.member "actionResult" MobileRobotAction.actionResult
    |>.member "blockingTypes" MobileRobotAction.blockingTypes
    |>.member "pauseAllowed" MobileRobotAction.pauseAllowed
    |>.member "cancelAllowed" MobileRobotAction.cancelAllowed

structure ProtocolFeatures where
  optionalParameters : List OptionalParameter
  mobileRobotActions : List MobileRobotAction
  deriving Inhabited

instance : JsonRecord ProtocolFeatures where
  record := Record.make ProtocolFeatures.mk
    |>.member "optionalParameters" ProtocolFeatures.optionalParameters
    |>.member "mobileRobotActions" ProtocolFeatures.mobileRobotActions

structure Position where
  x : Float
  y : Float
  theta : Option Float
  deriving Inhabited

instance : JsonRecord Position where
  record := Record.make Position.mk
    |>.member "x" Position.x
    |>.member "y" Position.y
    |>.member "theta" Position.theta

structure WheelDefinition where
  type : String
  isActiveDriven : Bool
  isActiveSteered : Bool
  position : Position
  diameter : Float
  width : Float
  centerDisplacement : Option Float
  constraints : Option String
  deriving Inhabited

instance : JsonRecord WheelDefinition where
  record := Record.make WheelDefinition.mk
    |>.member "type" WheelDefinition.type
    |>.member "isActiveDriven" WheelDefinition.isActiveDriven
    |>.member "isActiveSteered" WheelDefinition.isActiveSteered
    |>.member "position" WheelDefinition.position
    |>.member "diameter" WheelDefinition.diameter
    |>.member "width" WheelDefinition.width
    |>.member "centerDisplacement" WheelDefinition.centerDisplacement
    |>.member "constraints" WheelDefinition.constraints

structure Envelope2d where
  envelope2dId : String
  vertices : List Vertex
  description : Option String
  deriving Inhabited

instance : JsonRecord Envelope2d where
  record := Record.make Envelope2d.mk
    |>.member "envelope2dId" Envelope2d.envelope2dId
    |>.member "vertices" Envelope2d.vertices
    |>.member "description" Envelope2d.description

structure Envelope3d where
  envelope3dId : String
  format : String
  data : RawJson
  url : Option String
  description : Option String
  deriving Inhabited

instance : JsonRecord Envelope3d where
  record := Record.make Envelope3d.mk
    |>.member "envelope3dId" Envelope3d.envelope3dId
    |>.member "format" Envelope3d.format
    |>.member "data" Envelope3d.data
    |>.member "url" Envelope3d.url
    |>.member "description" Envelope3d.description

structure MobileRobotGeometry where
  wheelDefinitions : Option (List WheelDefinition)
  envelopes2d : Option (List Envelope2d)
  envelopes3d : Option (List Envelope3d)
  deriving Inhabited

instance : JsonRecord MobileRobotGeometry where
  record := Record.make MobileRobotGeometry.mk
    |>.member "wheelDefinitions" MobileRobotGeometry.wheelDefinitions
    |>.member "envelopes2d" MobileRobotGeometry.envelopes2d
    |>.member "envelopes3d" MobileRobotGeometry.envelopes3d

structure LoadDimensions where
  length : Float
  width : Float
  height : Option Float
  deriving Inhabited

instance : JsonRecord LoadDimensions where
  record := Record.make LoadDimensions.mk
    |>.member "length" LoadDimensions.length
    |>.member "width" LoadDimensions.width
    |>.member "height" LoadDimensions.height
  keys_nodup := nodup_length_width_height

structure LoadSet where
  setName : String
  loadType : String
  loadPositions : Option (List String)
  boundingBoxReference : Option BoundingBox
  loadDimensions : Option LoadDimensions
  maximumWeight : Option Float
  minimumLoadhandlingHeight : Option Float
  maximumLoadhandlingHeight : Option Float
  minimumLoadhandlingDepth : Option Float
  maximumLoadhandlingDepth : Option Float
  minimumLoadhandlingTilt : Option Float
  maximumLoadhandlingTilt : Option Float
  maximumSpeed : Option Float
  maximumAcceleration : Option Float
  maximumDeceleration : Option Float
  pickTime : Option Float
  dropTime : Option Float
  description : Option String
  deriving Inhabited

instance : JsonRecord LoadSet where
  record := Record.make LoadSet.mk
    |>.member "setName" LoadSet.setName
    |>.member "loadType" LoadSet.loadType
    |>.member "loadPositions" LoadSet.loadPositions
    |>.member "boundingBoxReference" LoadSet.boundingBoxReference
    |>.member "loadDimensions" LoadSet.loadDimensions
    |>.member "maximumWeight" LoadSet.maximumWeight
    |>.member "minimumLoadhandlingHeight" LoadSet.minimumLoadhandlingHeight
    |>.member "maximumLoadhandlingHeight" LoadSet.maximumLoadhandlingHeight
    |>.member "minimumLoadhandlingDepth" LoadSet.minimumLoadhandlingDepth
    |>.member "maximumLoadhandlingDepth" LoadSet.maximumLoadhandlingDepth
    |>.member "minimumLoadhandlingTilt" LoadSet.minimumLoadhandlingTilt
    |>.member "maximumLoadhandlingTilt" LoadSet.maximumLoadhandlingTilt
    |>.member "maximumSpeed" LoadSet.maximumSpeed
    |>.member "maximumAcceleration" LoadSet.maximumAcceleration
    |>.member "maximumDeceleration" LoadSet.maximumDeceleration
    |>.member "pickTime" LoadSet.pickTime
    |>.member "dropTime" LoadSet.dropTime
    |>.member "description" LoadSet.description

structure LoadSpecification where
  loadPositions : Option (List String)
  loadSets : Option (List LoadSet)
  deriving Inhabited

instance : JsonRecord LoadSpecification where
  record := Record.make LoadSpecification.mk
    |>.member "loadPositions" LoadSpecification.loadPositions
    |>.member "loadSets" LoadSpecification.loadSets

structure Version where
  key : String
  value : String
  deriving Inhabited

instance : JsonRecord Version where
  record := Record.make Version.mk
    |>.member "key" Version.key
    |>.member "value" Version.value

structure Network where
  dnsServers : Option (List String)
  ntpServers : Option (List String)
  localIpAddress : Option String
  netmask : Option String
  defaultGateway : Option String
  deriving Inhabited

instance : JsonRecord Network where
  record := Record.make Network.mk
    |>.member "dnsServers" Network.dnsServers
    |>.member "ntpServers" Network.ntpServers
    |>.member "localIpAddress" Network.localIpAddress
    |>.member "netmask" Network.netmask
    |>.member "defaultGateway" Network.defaultGateway

structure BatteryCharging where
  criticalLowChargingLevel : Option Float
  minimumDesiredChargingLevel : Option Float
  maximumDesiredChargingLevel : Option Float
  minimumChargingTime : Option Float
  deriving Inhabited

instance : JsonRecord BatteryCharging where
  record := Record.make BatteryCharging.mk
    |>.member "criticalLowChargingLevel" BatteryCharging.criticalLowChargingLevel
    |>.member "minimumDesiredChargingLevel" BatteryCharging.minimumDesiredChargingLevel
    |>.member "maximumDesiredChargingLevel" BatteryCharging.maximumDesiredChargingLevel
    |>.member "minimumChargingTime" BatteryCharging.minimumChargingTime

structure MobileRobotConfiguration where
  versions : Option (List Version)
  network : Option Network
  batteryCharging : Option BatteryCharging
  deriving Inhabited

instance : JsonRecord MobileRobotConfiguration where
  record := Record.make MobileRobotConfiguration.mk
    |>.member "versions" MobileRobotConfiguration.versions
    |>.member "network" MobileRobotConfiguration.network
    |>.member "batteryCharging" MobileRobotConfiguration.batteryCharging

structure FactSheet where
  headerId : Int64
  timestamp : String
  version : String
  manufacturer : String
  serialNumber : String
  typeSpecification : TypeSpecification
  physicalParameters : PhysicalParameters
  protocolLimits : ProtocolLimits
  protocolFeatures : ProtocolFeatures
  mobileRobotGeometry : MobileRobotGeometry
  loadSpecification : LoadSpecification
  mobileRobotConfiguration : Option MobileRobotConfiguration
  deriving Inhabited

instance : JsonRecord FactSheet where
  record := Record.make FactSheet.mk
    |>.member "headerId" FactSheet.headerId
    |>.member "timestamp" FactSheet.timestamp
    |>.member "version" FactSheet.version
    |>.member "manufacturer" FactSheet.manufacturer
    |>.member "serialNumber" FactSheet.serialNumber
    |>.member "typeSpecification" FactSheet.typeSpecification
    |>.member "physicalParameters" FactSheet.physicalParameters
    |>.member "protocolLimits" FactSheet.protocolLimits
    |>.member "protocolFeatures" FactSheet.protocolFeatures
    |>.member "mobileRobotGeometry" FactSheet.mobileRobotGeometry
    |>.member "loadSpecification" FactSheet.loadSpecification
    |>.member "mobileRobotConfiguration" FactSheet.mobileRobotConfiguration

end SyriusOrbit.Vda5050
