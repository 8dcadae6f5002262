import SyriusOrbit.Json.Record

/-!
# Parts shared by the message types

The structures of `Common.hpp`, `Action.h`, `NodePosition.h` and `Trajectory.h`.  Each is followed by its list of
members; the codec and its laws come with it.
-/

namespace SyriusOrbit.Vda5050

open JsonFormat

variable [JsonLibrary]

/-! ### Geometry and blocking types -/

inductive BlockingType where
  | none | single | soft | hard
  deriving DecidableEq, Inhabited

instance : JsonEnum BlockingType where
  table := [(.none, "NONE"), (.soft, "SOFT"), (.single, "SINGLE"), (.hard, "HARD")]

structure BoundingBox where
  x : Float
  y : Float
  z : Float
  theta : Option Float
  deriving Inhabited

instance : JsonRecord BoundingBox where
  record := Record.make BoundingBox.mk
    |>.member "x" BoundingBox.x
    |>.member "y" BoundingBox.y
    |>.member "z" BoundingBox.z
    |>.member "theta" BoundingBox.theta

structure Vertex where
  x : Float
  y : Float
  deriving Inhabited

instance : JsonRecord Vertex where
  record := Record.make Vertex.mk
    |>.member "x" Vertex.x
    |>.member "y" Vertex.y

/-! ### Actions -/

structure Action where
  actionType : String
  actionId : String
  actionDescriptor : Option String
  blockingType : BlockingType
  actionParameters : Option StringMap
  retriable : Option Bool
  deriving Inhabited

instance : JsonRecord Action where
  record := Record.make Action.mk
    |>.member "actionType" Action.actionType
    |>.member "actionId" Action.actionId
    |>.member "actionDescriptor" Action.actionDescriptor
    |>.member "blockingType" Action.blockingType
    |>.member "actionParameters" Action.actionParameters
    |>.member "retriable" Action.retriable

/-! ### Node positions -/

structure AllowedDeviationXY where
  a : Float
  b : Float
  theta : Float
  deriving Inhabited

instance : JsonRecord AllowedDeviationXY where
  record := Record.make AllowedDeviationXY.mk
    |>.member "a" AllowedDeviationXY.a
    |>.member "b" AllowedDeviationXY.b
    |>.member "theta" AllowedDeviationXY.theta

structure NodePosition where
  x : Float
  y : Float
  theta : Option Float
  allowedDeviationXY : Option AllowedDeviationXY
  allowedDeviationTheta : Option Float
  mapId : String
  deriving Inhabited

instance : JsonRecord NodePosition where
  record := Record.make NodePosition.mk
    |>.member "x" NodePosition.x
    |>.member "y" NodePosition.y
    |>.member "theta" NodePosition.theta
    |>.member "allowedDeviationXY" NodePosition.allowedDeviationXY
    |>.member "allowedDeviationTheta" NodePosition.allowedDeviationTheta
    |>.member "mapId" NodePosition.mapId

/-! ### Trajectories -/

structure ControlPoint where
  x : Float
  y : Float
  weight : Option Float
  deriving Inhabited

instance : JsonRecord ControlPoint where
  record := Record.make ControlPoint.mk
    |>.member "x" ControlPoint.x
    |>.member "y" ControlPoint.y
    |>.member "weight" ControlPoint.weight

structure Trajectory where
  degree : Option Int32
  knotVector : Option (List Float)
  controlPoints : List ControlPoint
  deriving Inhabited

instance : JsonRecord Trajectory where
  record := Record.make Trajectory.mk
    |>.member "degree" Trajectory.degree
    |>.member "knotVector" Trajectory.knotVector
    |>.member "controlPoints" Trajectory.controlPoints

/-! ### Laws used for several message types -/

omit [JsonLibrary] in
theorem nodup_length_width_height : ["length", "width", "height"].Nodup := by decide

instance : LawfulJsonCodec (List Vertex) := inferInstance

instance : LawfulJsonCodec (List Action) := inferInstance

instance : LawfulJsonCodec (Option BoundingBox) := inferInstance

instance : LawfulJsonCodec (Option NodePosition) := inferInstance

instance : LawfulJsonCodec (Option Trajectory) := inferInstance

end SyriusOrbit.Vda5050
