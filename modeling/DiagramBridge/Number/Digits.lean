/-!
# Decimal notation of whole numbers
-/

namespace DiagramBridge

/-- The digits of a natural number. -/
def decimal (n : Nat) : List Char :=
  Nat.toDigits 10 n

/-- The digits of an integer, behind a minus sign if it is negative. -/
def decimalInt (n : Int) : List Char :=
  if n < 0 then '-' :: decimal n.natAbs else decimal n.natAbs

/-- The digits of a natural number as a string. -/
def decimalString (n : Nat) : String :=
  String.ofList (decimal n)

end DiagramBridge
