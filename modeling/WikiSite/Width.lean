/-!
# Widths of integers

The bounds of the integers of 32 and 64 bits, in which positions, versions and ids are counted.
-/

namespace WikiSite

/-- Numbers of 32 bits are less than this. -/
def limit32 : Nat := 4294967296

/-- Numbers of 64 bits are less than this. -/
def limit64 : Nat := 18446744073709551616

/-- Whether an integer is one of 32 bits with a sign. -/
def isInt32 (n : Int) : Bool := -2147483648 ≤ n && n < 2147483648

/-- Whether an integer is one of 64 bits with a sign. -/
def isInt64 (n : Int) : Bool := -9223372036854775808 ≤ n && n < 9223372036854775808

end WikiSite
