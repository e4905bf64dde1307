import TrafficQueue.Network.Builder

/-!
# A square grid of streets

Crossings in rows and columns with two-way streets between neighbours, each way a link of its own.
The two rows in the middle are arterials and let through twice as much.

Main definition: `Grid.network`.
-/

namespace TrafficQueue.Grid

/-- Metres between neighbouring crossings. -/
def blockLength : Float := 250

/-- Metres per second in free flow. -/
def freeSpeed : Float := 13.9

/-- Vehicles per second on an ordinary street. -/
def streetFlow : Float := 0.5

/-- A row with twice the flow of the others. -/
def isArterial (size y : Nat) : Bool := y = size / 2 || y + 1 = size / 2

/-- The crossing at column `x` and row `y`. -/
def crossing (x y : Nat) : Node :=
  { name := toString x ++ "_" ++ toString y
    position := ⟨x.toFloat * blockLength, y.toFloat * blockLength⟩ }

/-- The crossings row by row. -/
def crossings (size : Nat) : List Node :=
  (List.range (size * size)).map fun i => crossing (i % size) (i / size)

/-- The two ways of a street between two crossings. -/
def ways (name : String) (a b : Nat) (flow : Float) : List LinkSpec :=
  let way (suffix : String) (source target : Nat) : LinkSpec :=
    { name := name ++ suffix, source := ⟨source⟩, target := ⟨target⟩, length := blockLength
      speed := freeSpeed, flow := some flow }
  [way "f" a b, way "b" b a]

/-- The streets from the crossing at `x` and `y` to its neighbours to the right and above. -/
def streetsFrom (size x y : Nat) : List LinkSpec :=
  let here := y * size + x
  let place := toString x ++ "_" ++ toString y
  let right :=
    if x + 1 < size then
      ways ("h" ++ place) here (here + 1) (if isArterial size y then 2 * streetFlow else streetFlow)
    else []
  let above := if y + 1 < size then ways ("v" ++ place) here (here + size) streetFlow else []
  right ++ above

/-- All streets, crossing by crossing. -/
def streets (size : Nat) : List LinkSpec :=
  (List.range size).flatMap fun y => (List.range size).flatMap fun x => streetsFrom size x y

/-- The grid with the given number of rows and columns. -/
def network (size : Nat) : Except NetworkError Network :=
  NetworkBuilder.build { nodes := (crossings size).toArray, links := (streets size).toArray }

end TrafficQueue.Grid
