/-!
The elliptic curve secp256k1: `y ^ 2 = x ^ 3 + 7` over a prime field.

Points are kept in Jacobian coordinates, which need no division: `(x, y, z)` stands for the point
`(x / z ^ 2, y / z ^ 3)`, and the point at infinity has `z = 0`.
-/

set_option autoImplicit false

namespace RelayCheck.Schnorr

def fieldSize : Nat := 0xFFFFFFFFFFFFFFFFFFFFFFFFFFFFFFFFFFFFFFFFFFFFFFFFFFFFFFFEFFFFFC2F

def groupSize : Nat := 0xFFFFFFFFFFFFFFFFFFFFFFFFFFFFFFFEBAAEDCE6AF48A03BBFD25E8CD0364141

/-- A power in the field, for exponents of at most `bits` bits. -/
def fieldPower (bits base exponent : Nat) : Nat :=
  match bits with
  | 0 => 1
  | bits + 1 =>
    let rest := fieldPower bits (base * base % fieldSize) (exponent / 2)
    if exponent % 2 == 1 then base * rest % fieldSize else rest

/-- The inverse of an element other than zero, by the small theorem of Fermat. -/
def fieldInverse (element : Nat) : Nat :=
  fieldPower 256 element (fieldSize - 2)

def fieldSub (left right : Nat) : Nat :=
  (left + (fieldSize - right % fieldSize)) % fieldSize

/-- A point in Jacobian coordinates. -/
structure Point where
  x : Nat
  y : Nat
  z : Nat
deriving DecidableEq, Repr

namespace Point

def infinity : Point := ⟨1, 1, 0⟩

def generator : Point :=
  ⟨0x79BE667EF9DCBBAC55A06295CE870B07029BFCDB2DCE28D959F2815B16F81798,
   0x483ADA7726A3C4655DA4FBFC0E1108A8FD17B448A68554199C47D08FFB10D4B8, 1⟩

def double (point : Point) : Point :=
  let square := point.y * point.y % fieldSize
  let middle := 4 * point.x * square % fieldSize
  let slope := 3 * point.x * point.x % fieldSize
  let x := fieldSub (slope * slope) (2 * middle)
  { x := x
    y := fieldSub (slope * fieldSub middle x) (8 * square * square)
    z := 2 * point.y * point.z % fieldSize }

def add (left right : Point) : Point :=
  if left.z == 0 then right
  else if right.z == 0 then left
  else
    let leftSquare := left.z * left.z % fieldSize
    let rightSquare := right.z * right.z % fieldSize
    let leftX := left.x * rightSquare % fieldSize
    let rightX := right.x * leftSquare % fieldSize
    let leftY := left.y * rightSquare * right.z % fieldSize
    let rightY := right.y * leftSquare * left.z % fieldSize
    if leftX == rightX then
      if leftY == rightY then left.double else infinity
    else
      let width := fieldSub rightX leftX
      let height := fieldSub rightY leftY
      let square := width * width % fieldSize
      let cube := square * width % fieldSize
      let middle := leftX * square % fieldSize
      let x := fieldSub (height * height) (cube + 2 * middle)
      { x := x
        y := fieldSub (height * fieldSub middle x) (leftY * cube)
        z := width * left.z * right.z % fieldSize }

/-- A multiple of a point, for factors of at most `bits` bits. -/
def timesBits (bits factor : Nat) (point : Point) : Point :=
  match bits with
  | 0 => infinity
  | bits + 1 =>
    let rest := timesBits bits (factor / 2) point.double
    if factor % 2 == 1 then add point rest else rest

/-- A multiple of a point, for factors below the number of points. -/
def times (factor : Nat) (point : Point) : Point :=
  timesBits 256 factor point

/-- The coordinates of a point, unless it is the one at infinity. -/
def coordinates? (point : Point) : Option (Nat × Nat) :=
  if point.z == 0 then none
  else
    let inverse := fieldInverse point.z
    let square := inverse * inverse % fieldSize
    some (point.x * square % fieldSize, point.y * square * inverse % fieldSize)

/-- The point with a given first coordinate and an even second one, if there is one. -/
def withEvenY? (x : Nat) : Option Point :=
  if x < fieldSize then
    let square := (x * x * x + 7) % fieldSize
    let root := fieldPower 256 square ((fieldSize + 1) / 4)
    if root * root % fieldSize == square then
      some ⟨x, if root % 2 == 0 then root else fieldSize - root, 1⟩
    else none
  else none

end Point

end RelayCheck.Schnorr
