import SchemaDiagram.Routing.Route

/-! # Faults of a layout

A coordinate that could not be calculated is a fault. A layout with a fault in it is no layout: its
first fault, in the order of the calculation, is what went wrong. -/

namespace SchemaDiagram

/-- The first fault among some numbers. -/
def firstFault (numbers : List Mixed) : Option NumberFault := numbers.findSome? Mixed.fault?

/-- The result of a calculation on the given numbers, or the first fault among them. -/
def unlessFault {α : Type} (numbers : List Mixed) (x : α) : Except NumberFault α :=
  (firstFault numbers).elim (.ok x) .error

/-- The coordinates of a point. -/
def Point.numbers (p : Point Mixed) : List Mixed := [p.x, p.y]

/-- The coordinates of a rectangle. -/
def Rect.numbers (r : Rect Mixed) : List Mixed := [r.x, r.y, r.width, r.height]

/-- The numbers by which the edges of two rectangles are chosen: the second right edge counts only
where the first rectangle starts before the other one ends. -/
def sideNumbers (source target : Rect Mixed) : List Mixed :=
  target.right :: if source.x < target.right then [source.right] else []

/-- The numbers that a connection is made of. -/
def Connection.numbers (c : Connection Mixed) : List Mixed :=
  sideNumbers c.source.rect c.target.rect ++ [c.source.otherY, c.target.otherY]

/-- The means by which the lanes of every side of a table with several ends are ordered. -/
def laneNumbers (ends : List (ConnectionEnd Mixed)) : List Mixed :=
  let sides := (ends.map fun e => (e.tableAnchor, e.side)).eraseDups
  sides.flatMap fun side =>
    let group := ends.filter fun e => (e.tableAnchor, e.side) = side
    if group.length ≤ 1 then [] else [mean (group.map (·.rect.y)), mean (group.map (·.otherY))]

namespace ConnectionPath

/-- The points of a path. -/
def points (p : ConnectionPath Mixed) : List (Point Mixed) :=
  [p.controlStart, p.controlEnd] ++ p.commands.flatMap (·.points) ++
    (p.startLabel.toList ++ p.endLabel.toList).map (·.position)

/-- The numbers that a path is made of: its ends, a third of the distance between them, and its
points. -/
def numbers (p : ConnectionPath Mixed) : List Mixed :=
  p.start.numbers ++ p.stop.numbers ++ [magnitude (p.stop.x - p.start.x) / ((3 : Nat) : Mixed)] ++
    p.points.flatMap (·.numbers)

end ConnectionPath

/-- The numbers of all drawn connections: of their ends, their lanes and their paths. -/
def RoutingResult.numbers (r : RoutingResult Mixed) : List Mixed :=
  let connections := r.paths.map (·.connection)
  connections.flatMap (·.numbers) ++ laneNumbers (allEnds connections) ++
    r.paths.flatMap (·.numbers)

/-- The drawn connections where all of their numbers could be calculated. -/
def RoutingResult.checked (r : RoutingResult Mixed) : Except NumberFault (RoutingResult Mixed) :=
  unlessFault r.numbers r

/-- The boxes where all of their numbers could be calculated. -/
def checkedBoxes (boxes : OrderedMap (Rect Mixed)) : Except NumberFault (OrderedMap (Rect Mixed)) :=
  unlessFault (boxes.values.flatMap (·.numbers)) boxes

end SchemaDiagram
