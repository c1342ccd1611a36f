/-
The indoor-map catalog: points, maps, buildings, floors, rooms, sensors and
the graph that links them, with signatures and tags as the backend declares
them, those for its storage included.
-/
import Typescribe.Catalog.Basic

namespace Typescribe.Indoor

/-- The models exported to the front end, in the order of output. -/
def allowList : List Text :=
  ["Point2f", "Map", "Building", "Floor", "Room", "Indent", "Sensor", "MapNode", "NodeEdge"]

/-- A field with a tag. -/
def field (name signature tag : String) : Field :=
  ⟨name.toList, .ofText signature.toList, some ⟨tag.toList⟩⟩

/-- A field without a tag. -/
def plainField (name signature : String) : Field := ⟨name.toList, .ofText signature.toList, none⟩

def pairPoint2f : Model := ⟨"PairPoint2f", [
  field "First" "model.Point2f" "json:\"fst\"",
  field "Second" "model.Point2f" "json:\"snd\""]⟩

def point2f : Model := ⟨"Point2f", [
  field "X" "*float64" "json:\"x\"",
  field "Y" "*float64" "json:\"y\""]⟩

def pair2f : Model := ⟨"Pair2f", [
  field "First" "model.Point2f" "json:\"first\"",
  field "Second" "model.Point2f" "json:\"second\""]⟩

def mapNode : Model := ⟨"MapNode", [
  field "Id" "int" "json:\"id\" gorm:\"primaryKey\"",
  field "MapId" "int" "json:\"mapId\"",
  field "Location" "model.Point2f" "json:\"location\" gorm:\"embedded;embeddedPrefix:location_\"",
  field "RootNode" "bool" "json:\"rootNode\"",
  field "FloorIndex" "*int" "json:\"floorIndex\"",
  field "BiDirectional" "bool" "json:\"bidirectional\""]⟩

def nodeEdge : Model := ⟨"NodeEdge", [
  field "Id" "int" "json:\"id\" gorm:\"primaryKey\"",
  field "MapId" "int" "json:\"mapId\"",
  field "Node1Id" "int" "json:\"node1Id\"",
  field "Node2Id" "int" "json:\"node2Id\"",
  field "Node1" "*model.MapNode" "json:\"-\" gorm:\"foreignkey:Node1Id;references:Id\"",
  field "Node2" "*model.MapNode" "json:\"-\" gorm:\"foreignkey:Node2Id;references:Id\""]⟩

def auth0User : Model := ⟨"Auth0User", [
  field "Id" "int" "gorm:\"primaryKey\"",
  plainField "Authid" "string",
  field "Maps" "[]model.Map" "gorm:\"many2many:user_map_jt;\""]⟩

def map : Model := ⟨"Map", [
  field "Id" "int" "json:\"id\" gorm:\"primaryKey\"",
  field "Password" "string" "json:\"password\"",
  field "Name" "string" "json:\"name\"",
  field "Buildings" "[]model.Building" "json:\"buildings\" gorm:\"references:Id;OnDelete:CASCADE\"",
  field "Users" "[]model.Auth0User" "json:\"-\" gorm:\"many2many:user_map_jt;\"",
  field "Nodes" "[]model.MapNode" "json:\"nodes\" gorm:\"references:Id;OnDelete:CASCADE\"",
  field "Edges" "[]model.NodeEdge" "json:\"edges\" gorm:\"references:Id;OnDelete:CASCADE\"",
  field "NorthAngle" "float64" "json:\"northAngle\"",
  plainField "Deleted" "gorm.DeletedAt"]⟩

def building : Model := ⟨"Building", [
  field "Id" "int" "json:\"id\" gorm:\"primaryKey\"",
  field "MapId" "int" "json:\"mapId\"",
  field "BuildingName" "string" "json:\"buildingName\"",
  field "Location" "model.Point2f" "json:\"location\" gorm:\"embedded;embeddedPrefix:location_\"",
  field "Floors" "[]model.Floor" "json:\"floors\" gorm:\"references:Id;OnDelete:CASCADE\""]⟩

def floor : Model := ⟨"Floor", [
  field "Id" "int" "json:\"id\" gorm:\"primaryKey\"",
  field "BuildingId" "int" "json:\"buildingId\"",
  field "FloorNumber" "*int" "json:\"floorNumber\"",
  field "FloorName" "string" "json:\"floorName\"",
  field "Location" "model.Point2f" "json:\"location\" gorm:\"embedded;embeddedPrefix:location_\"",
  field "Rooms" "[]model.Room" "json:\"rooms\" gorm:\"references:Id;OnDelete:CASCADE\"",
  field "Sensors" "[]model.Sensor" "json:\"sensors\"gorm:\"OnDelete:CASCADE\""]⟩

def sensor : Model := ⟨"Sensor", [
  field "Id" "int" "json:\"id\" gorm:\"primaryKey\"",
  field "SensorId" "string" "json:\"sensorId\"",
  field "FloorId" "int" "json:\"floorId\"",
  field "Location" "model.Point2f" "json:\"location\" gorm:\"embedded;embeddedPrefix:location_\""]⟩

def indent : Model := ⟨"Indent", [
  field "Id" "int" "json:\"id\" gorm:\"primaryKey\"",
  field "RoomId" "int" "json:\"roomId\"",
  field "WallKeyA" "*string" "json:\"wallKeyA\" gorm:\"column:wallKeyA\"",
  field "WallKeyB" "*string" "json:\"wallKeyB\" gorm:\"column:wallKeyB\"",
  field "Location" "float64" "json:\"location\"",
  field "Dimensions" "model.Point2f" "json:\"dimensions\" gorm:\"embedded;embeddedPrefix:size_\""]⟩

def entrance : Model := ⟨"Entrance", [
  field "Id" "int" "json:\"id\" gorm:\"primaryKey\"",
  field "Start" "model.Point2f" "json:\"start\" gorm:\"embedded;embeddedPrefix:start_\"",
  field "End" "model.Point2f" "json:\"end\" gorm:\"embedded;embeddedPrefix:end_\""]⟩

def room : Model := ⟨"Room", [
  field "Id" "int" "json:\"id\" gorm:\"primaryKey\"",
  field "FloorId" "int" "json:\"floorId\"",
  field "Rotation" "*float64" "json:\"rotation\"",
  field "Name" "string" "json:\"name\"",
  field "Location" "model.Point2f" "json:\"location\" gorm:\"embedded;embeddedPrefix:location_\"",
  field "Dimensions" "model.Point2f" "json:\"dimensions\" gorm:\"embedded;embeddedPrefix:size_\"",
  field "Indents" "[]model.Indent" "json:\"indents\" gorm:\"references:Id;OnDelete:CASCADE\"",
  field "Polygon" "[]model.Point2f" "json:\"polygon\" gorm:\"-\"",
  field "Walls" "[]*model.PairPoint2f" "json:\"walls\" gorm:\"-\"",
  field "Entrances" "[]model.Entrance" "json:\"entrances\" gorm:\"references:Id;many2many:room_entrance_jt;OnDelete:CASCADE\""]⟩

/-- All models, in the order of the catalog. -/
def catalog : Catalog := [
  pairPoint2f, point2f, pair2f, mapNode, nodeEdge, auth0User, map,
  building, floor, sensor, indent, entrance, room]

end Typescribe.Indoor
