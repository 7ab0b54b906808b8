/-
  VulkanValidity.DeviceSize

  Sizes, offsets and alignments of device memory are 64-bit numbers. They are kept as natural
  numbers, and the operations here stop at the largest 64-bit number instead of going beyond it.
-/

namespace VulkanValidity.DeviceSize

/-- The largest 64-bit number. -/
def max : Nat := 1 <<< 64 - 1

/-- Whether a number is a 64-bit number. -/
def fits (n : Nat) : Bool := decide (n ≤ max)

/-- The number, or the largest 64-bit number if it does not fit. -/
def saturate (n : Nat) : Nat := min n max

/-- The sum, cut off at 64 bits. -/
def add (a b : Nat) : Nat := saturate (a + b)

/-- The product, cut off at 64 bits. -/
def mul (a b : Nat) : Nat := saturate (a * b)

/-- The least multiple of `alignment` that is at least `size`, or the largest multiple below `2 ^ 64`
if that does not fit. -/
def alignUp (size alignment : Nat) : Nat :=
  let aligned := (size + (alignment - 1)) / alignment * alignment
  if aligned ≤ max then aligned else max / alignment * alignment

/-- The binary digits of a mask after `0b`, as messages write it. -/
def binaryText (mask : Nat) : String :=
  "0b" ++ String.ofList (Nat.toDigits 2 mask)

/-- The hexadecimal digits of a number after `0x`, as messages write it. -/
def hexText (n : Nat) : String :=
  "0x" ++ String.ofList (Nat.toDigits 16 n)

end VulkanValidity.DeviceSize
