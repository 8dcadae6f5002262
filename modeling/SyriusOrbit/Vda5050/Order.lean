import SyriusOrbit.Vda5050.Common

/-!
# Orders, instant actions and responses

The structures of `Order.hpp`, `InstantActions.hpp` and `Responses.hpp`, the messages sent to a robot.
-/

namespace SyriusOrbit.Vda5050

open JsonFormat

variable [JsonLibrary]

/-! ### Orders -/

inductive OrientationType where
  | global | tangential
  deriving DecidableEq, Inhabited

instance : JsonEnum OrientationType where
  table := [(.global, "GLOBAL"), (.tangential, "TANGENTIAL")]

inductive ReferencePoint where
  | kinematicCenter | contour
  deriving DecidableEq, Inhabited

instance : JsonEnum ReferencePoint where
  table := [(.kinematicCenter, "KINEMATIC_CENTER"), (.contour, "CONTOUR")]

inductive CorridorReleaseLossBehavior where
  | stop | return_
  deriving DecidableEq, Inhabited

instance : JsonEnum CorridorReleaseLossBehavior where
  table := [(.stop, "STOP"), (.return_, "RETURN")]

structure Node where
  nodeId : String
  sequenceId : Int64
  nodeDescriptor : Option String
  released : Bool
  nodePosition : Option NodePosition
  actions : List Action
  deriving Inhabited

instance : JsonRecord Node where
  record := Record.make Node.mk
    |>.member "nodeId" Node.nodeId
    |>.member "sequenceId" Node.sequenceId
    |>.member "nodeDescriptor" Node.nodeDescriptor
    |>.member "released" Node.released
    |>.member "nodePosition" Node.nodePosition
    |>.member "actions" Node.actions

structure Corridor where
  leftWidth : Float
  rightWidth : Float
  corridorReferencePoint : Option ReferencePoint
  releaseRequired : Option Bool
  releaseLossBehavior : Option CorridorReleaseLossBehavior
  deriving Inhabited

instance : JsonRecord Corridor where
  record := Record.make Corridor.mk
    |>.member "leftWidth" Corridor.leftWidth
    |>.member "rightWidth" Corridor.rightWidth
    |>.member "corridorReferencePoint" Corridor.corridorReferencePoint
    |>.member "releaseRequired" Corridor.releaseRequired
    |>.member "releaseLossBehavior" Corridor.releaseLossBehavior

structure Edge where
  edgeId : String
  sequenceId : Int64
  edgeDescriptor : Option String
  released : Bool
  maximumSpeed : Option Float
  maximumMobileRobotHeight : Option Float
  minimumLoadHandlingDeviceHeight : Option Float
  orientation : Option Float
  orientationType : Option OrientationType
  direction : Option String
  reachOrientationBeforeEntering : Option Bool
  maxRotationSpeed : Option Float
  trajectory : Option Trajectory
  length : Option Float
  corridor : Option Corridor
  actions : List Action
  deriving Inhabited

instance : JsonRecord Edge where
  record := Record.make Edge.mk
    |>.member "edgeId" Edge.edgeId
    |>.member "sequenceId" Edge.sequenceId
    |>.member "edgeDescriptor" Edge.edgeDescriptor
    |>.member "released" Edge.released
    |>.member "maximumSpeed" Edge.maximumSpeed
    |>.member "maximumMobileRobotHeight" Edge.maximumMobileRobotHeight
    |>.member "minimumLoadHandlingDeviceHeight" Edge.minimumLoadHandlingDeviceHeight
    |>.member "orientation" Edge.orientation
    |>.member "orientationType" Edge.orientationType
    |>.member "direction" Edge.direction
    |>.member "reachOrientationBeforeEntering" Edge.reachOrientationBeforeEntering
    |>.member "maxRotationSpeed" Edge.maxRotationSpeed
    |>.member "trajectory" Edge.trajectory
    |>.member "length" Edge.length
    |>.member "corridor" Edge.corridor
    |>.member "actions" Edge.actions

structure Order where
  headerId : Int64
  timestamp : String
  version : String
  manufacturer : String
  serialNumber : String
  orderId : String
  orderUpdateId : Int64
  orderDescription : Option String
  nodes : List Node
  edges : List Edge
  deriving Inhabited

instance : JsonRecord Order where
  record := Record.make Order.mk
    |>.member "headerId" Order.headerId
    |>.member "timestamp" Order.timestamp
    |>.member "version" Order.version
    |>.member "manufacturer" Order.manufacturer
    |>.member "serialNumber" Order.serialNumber
    |>.member "orderId" Order.orderId
    |>.member "orderUpdateId" Order.orderUpdateId
    |>.member "orderDescription" Order.orderDescription
    |>.member "nodes" Order.nodes
    |>.member "edges" Order.edges

/-! ### Instant actions -/

structure InstantActions where
  headerId : Int64
  timestamp : String
  version : String
  manufacturer : String
  serialNumber : String
  actions : List Action
  deriving Inhabited

instance : JsonRecord InstantActions where
  record := Record.make InstantActions.mk
    |>.member "headerId" InstantActions.headerId
    |>.member "timestamp" InstantActions.timestamp
    |>.member "version" InstantActions.version
    |>.member "manufacturer" InstantActions.manufacturer
    |>.member "serialNumber" InstantActions.serialNumber
    |>.member "actions" InstantActions.actions

/-! ### Responses -/

inductive GrantType where
  | granted | queued | revoked | rejected
  deriving DecidableEq, Inhabited

instance : JsonEnum GrantType where
  table := [(.granted, "GRANTED"), (.queued, "QUEUED"), (.revoked, "REVOKED"), (.rejected, "REJECTED")]

structure Response where
  requestId : String
  grantType : GrantType
  leaseExpiry : Option String
  deriving Inhabited

instance : JsonRecord Response where
  record := Record.make Response.mk
    |>.member "requestId" Response.requestId
    |>.member "grantType" Response.grantType
    |>.member "leaseExpiry" Response.leaseExpiry

structure Responses where
  headerId : Int64
  timestamp : String
  version : String
  manufacturer : String
  serialNumber : String
  responses : List Response
  deriving Inhabited

instance : JsonRecord Responses where
  record := Record.make Responses.mk
    |>.member "headerId" Responses.headerId
    |>.member "timestamp" Responses.timestamp
    |>.member "version" Responses.version
    |>.member "manufacturer" Responses.manufacturer
    |>.member "serialNumber" Responses.serialNumber
    |>.member "responses" Responses.responses

end SyriusOrbit.Vda5050
