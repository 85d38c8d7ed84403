/-!
# Ranges of code points

Properties of characters are kept as closed ranges of code points, ascending and apart, and
looked up by one walk that stops at the first range beyond the code point.
-/

namespace Keyspace.Text

/-- Closed ranges of code points, ascending and apart. -/
abbrev Ranges := List (Nat × Nat)

namespace Ranges

/-- A code point is covered when some range contains it. -/
def covers : Ranges → Nat → Bool
  | [], _ => false
  | (first, last) :: later, code =>
    if code < first then false else if code ≤ last then true else covers later code

end Ranges

end Keyspace.Text
