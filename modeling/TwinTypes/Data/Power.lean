/-!
# Powers

The powers by which numbers are bounded and scaled.
-/

namespace TwinTypes

/-- How many numbers so many binary digits can write. -/
def twoTo (n : Nat) : Nat :=
  Nat.pow 2 n

/-- How many numbers so many decimal digits can write. -/
def tenTo (n : Nat) : Nat :=
  Nat.pow 10 n

end TwinTypes
