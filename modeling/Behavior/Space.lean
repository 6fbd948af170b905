namespace Behavior

/-- The gap between `1` and the next larger single precision number, `2 ^ (-23)`. Lengths up to it
count as zero. -/
def epsilon : Float32 := Float32.ofBits 0x34000000

structure Vec3 where
  x : Float32
  y : Float32
  z : Float32

namespace Vec3

def zero : Vec3 := ⟨0, 0, 0⟩

def forward : Vec3 := ⟨0, 0, 1⟩

instance : Inhabited Vec3 := ⟨zero⟩

/-- Componentwise comparison of numbers: the two zeros are equal, and a NaN differs from itself. -/
instance : BEq Vec3 where
  beq u v := u.x == v.x && u.y == v.y && u.z == v.z

-- Each operation rounds once, and sums associate to the left: rearranging changes the results.
instance : Add Vec3 where
  add u v := ⟨u.x + v.x, u.y + v.y, u.z + v.z⟩

instance : Sub Vec3 where
  sub u v := ⟨u.x - v.x, u.y - v.y, u.z - v.z⟩

instance : HMul Vec3 Float32 Vec3 where
  hMul v scale := ⟨v.x * scale, v.y * scale, v.z * scale⟩

def length (v : Vec3) : Float32 :=
  (v.x * v.x + v.y * v.y + v.z * v.z).sqrt

def distance (u v : Vec3) : Float32 :=
  (v - u).length

def normalized (v : Vec3) : Vec3 :=
  let length := v.length
  if length ≤ epsilon then zero else v * (1 / length)

def moveTowards (origin target : Vec3) (reach : Float32) : Vec3 :=
  let offset := target - origin
  let gap := offset.length
  if gap ≤ reach ∨ gap ≤ epsilon then target else origin + offset * (reach / gap)

end Vec3

structure Transform where
  position : Vec3
  forward : Vec3

namespace Transform

def standing (position : Vec3) : Transform := ⟨position, Vec3.forward⟩

instance : Inhabited Transform := ⟨standing Vec3.zero⟩

instance : BEq Transform where
  beq a b := a.position == b.position && a.forward == b.forward

def stepTowards (transform : Transform) (target : Vec3) (reach : Float32) : Transform where
  forward :=
    let direction := (target - transform.position).normalized
    if direction != Vec3.zero then direction else transform.forward
  position := transform.position.moveTowards target reach

end Transform

end Behavior
