import SyriusOrbit.Vda5050.Common

/-!
# Connection and visualization messages

The structures of `Connection.hpp` and `Visualization.hpp`.
-/

namespace SyriusOrbit.Vda5050

open JsonFormat

variable [JsonLibrary]

/-! ### Connection -/

inductive ConnectionState where
  | online | offline | hibernating | connectionBroken
  deriving DecidableEq, Inhabited

instance : JsonEnum ConnectionState where
  table := [(.online, "ONLINE"), (.offline, "OFFLINE"), (.hibernating, "HIBERNATING"),
    (.connectionBroken, "CONNECTION_BROKEN")]

structure Connection where
  headerId : Int64
  timestamp : String
  version : String
  manufacturer : String
  serialNumber : String
  connectionState : ConnectionState
  deriving Inhabited

instance : JsonRecord Connection where
  record := Record.make Connection.mk
    |>.member "headerId" Connection.headerId
    |>.member "timestamp" Connection.timestamp
    |>.member "version" Connection.version
    |>.member "manufacturer" Connection.manufacturer
    |>.member "serialNumber" Connection.serialNumber
    |>.member "connectionState" Connection.connectionState

/-! ### Visualization -/

structure PlannedPath where
  trajectory : Trajectory
  traversedNodes : Option (List String)
  deriving Inhabited

instance : JsonRecord PlannedPath where
  record := Record.make PlannedPath.mk
    |>.member "trajectory" PlannedPath.trajectory
    |>.member "traversedNodes" PlannedPath.traversedNodes

instance : LawfulJsonCodec (Option PlannedPath) := inferInstance

structure WayPoint where
  x : Float
  y : Float
  theta : Option Float
  eta : String
  deriving Inhabited

instance : JsonRecord WayPoint where
  record := Record.make WayPoint.mk
    |>.member "x" WayPoint.x
    |>.member "y" WayPoint.y
    |>.member "theta" WayPoint.theta
    |>.member "eta" WayPoint.eta

structure IntermediatePath where
  polyline : List WayPoint
  deriving Inhabited

instance : JsonRecord IntermediatePath where
  record := Record.make IntermediatePath.mk
    |>.member "polyline" IntermediatePath.polyline

instance : LawfulJsonCodec (Option IntermediatePath) := inferInstance

structure MobileRobotPosition where
  x : Float
  y : Float
  theta : Float
  mapId : String
  localized : Bool
  localizationScore : Option Float
  deviationRange : Option Float
  deriving Inhabited

instance : JsonRecord MobileRobotPosition where
  record := Record.make MobileRobotPosition.mk
    |>.member "x" MobileRobotPosition.x
    |>.member "y" MobileRobotPosition.y
    |>.member "theta" MobileRobotPosition.theta
    |>.member "mapId" MobileRobotPosition.mapId
    |>.member "localized" MobileRobotPosition.localized
    |>.member "localizationScore" MobileRobotPosition.localizationScore
    |>.member "deviationRange" MobileRobotPosition.deviationRange

instance : LawfulJsonCodec (Option MobileRobotPosition) := inferInstance

structure Velocity where
  vx : Option Float
  vy : Option Float
  omega : Option Float
  deriving Inhabited

instance : JsonRecord Velocity where
  record := Record.make Velocity.mk
    |>.member "vx" Velocity.vx
    |>.member "vy" Velocity.vy
    |>.member "omega" Velocity.omega

instance : LawfulJsonCodec (Option Velocity) := inferInstance

structure Visualization where
  headerId : Int64
  timestamp : String
  version : String
  manufacturer : String
  serialNumber : String
  referenceStateHeaderId : Int64
  plannedPath : Option PlannedPath
  intermediatePath : Option IntermediatePath
  mobileRobotPosition : Option MobileRobotPosition
  velocity : Option Velocity
  deriving Inhabited

instance : JsonRecord Visualization where
  record := Record.make Visualization.mk
    |>.member "headerId" Visualization.headerId
    |>.member "timestamp" Visualization.timestamp
    |>.member "version" Visualization.version
    |>.member "manufacturer" Visualization.manufacturer
    |>.member "serialNumber" Visualization.serialNumber
    |>.member "referenceStateHeaderId" Visualization.referenceStateHeaderId
    |>.member "plannedPath" Visualization.plannedPath
    |>.member "intermediatePath" Visualization.intermediatePath
    |>.member "mobileRobotPosition" Visualization.mobileRobotPosition
    |>.member "velocity" Visualization.velocity

end SyriusOrbit.Vda5050
