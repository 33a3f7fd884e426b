/-!
# Machine words

Whole numbers that come from outside are kept in words of 64 or 32 bits. Their values are natural
numbers here, so only the bounds of the words remain: a number fits when it is below its bound.
-/

namespace DialARide.Word

/-- Bound of unsigned 64-bit words. -/
def bound : Nat := 0x10000000000000000

/-- Bound of the magnitude of signed 64-bit words. -/
def signedBound : Nat := 0x8000000000000000

/-- Bound of unsigned 32-bit words. -/
def halfBound : Nat := 0x100000000

/-- Bound of the magnitude of signed 32-bit words. -/
def signedHalfBound : Nat := 0x80000000

end DialARide.Word
