/-!
# Decimal digits

Numbers as they are read from digits, the leading digit first.
-/

namespace DialARide.Decimal

/-- Value of a digit. -/
def digitValue (c : Char) : Nat := c.toNat - 48

/-- Number written by digits; zero when there are none. -/
def ofDigits (digits : List Char) : Nat := digits.foldl (fun n c => n * 10 + digitValue c) 0

end DialARide.Decimal
