/-!
# Words

How many numbers words of 32 and 64 bits have, and how many of them are half.
-/

set_option autoImplicit false

namespace NetConsole.Decimal

def words32 : Nat := 4294967296

def words64 : Nat := 18446744073709551616

/-- Half the number of words of 32 bits, the magnitude of the least signed one. -/
def half32 : Nat := 2147483648

/-- Half the number of words of 64 bits, the magnitude of the least signed one. -/
def half64 : Nat := 9223372036854775808

def words128 : Nat := 340282366920938463463374607431768211456

/-- Half the number of words of 128 bits, the magnitude of the least signed one. -/
def half128 : Nat := 170141183460469231731687303715884105728

end NetConsole.Decimal
