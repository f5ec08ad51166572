/-!
# Whole numbers of fixed width

The ends of the ranges of whole numbers of 8, 32 and 64 bits.
-/

namespace Outlays

/-- The greatest whole number of 8 bits without a sign. -/
def uint8Max : Nat := 255

/-- The greatest whole number of 32 bits without a sign. -/
def uint32Max : Nat := 4294967295

/-- The greatest whole number of 64 bits without a sign. -/
def uint64Max : Nat := 18446744073709551615

/-- The least and the greatest whole number of 32 bits with a sign. -/
def int32Bounds : Int × Int := (-2147483648, 2147483647)

/-- The least and the greatest whole number of 64 bits with a sign. -/
def int64Bounds : Int × Int := (-9223372036854775808, 9223372036854775807)

end Outlays
