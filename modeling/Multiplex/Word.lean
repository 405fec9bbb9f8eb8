/-!
# Machine words

Numbers that are kept in machine words, or written down to be read into such, have
a bound.  The bounds are given as the first number that does not fit.
-/

namespace Multiplex.Word

/-- The first number that does not fit into 32 bits. -/
def bound32 : Nat := 4294967296

/-- The first number that does not fit into 63 bits, which is what 64 bits with a
sign leave. -/
def bound63 : Nat := 9223372036854775808

/-- The first number that does not fit into 64 bits. -/
def bound64 : Nat := 18446744073709551616

end Multiplex.Word
