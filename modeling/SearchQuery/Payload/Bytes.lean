/-!
# Bytes of a number

A number of several bytes has its least byte first. Elements are packed
without gaps, so a buffer falls into groups of one width.
-/

namespace SearchQuery.Payload

/-- The lowest bytes of a number, least first. -/
def littleEndian : Nat → Nat → List UInt8
  | 0, _ => []
  | width + 1, n => UInt8.ofNat n :: littleEndian width (n / 256)

/-- The number of a list of bytes, least first. -/
def ofLittleEndian : List UInt8 → Nat
  | [] => 0
  | b :: bs => b.toNat + 256 * ofLittleEndian bs

/-- Consecutive groups of a width; the last may be short. -/
def groups {α : Type} (width : Nat) (width_pos : 0 < width) : List α → List (List α)
  | [] => []
  | x :: xs => (x :: xs).take width :: groups width width_pos ((x :: xs).drop width)
termination_by xs => xs.length
decreasing_by
  simp only [List.length_drop, List.length_cons]
  omega

end SearchQuery.Payload
