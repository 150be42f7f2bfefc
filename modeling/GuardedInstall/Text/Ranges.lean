/-!
# Ranges of code points

A property of characters is kept as a table of closed ranges of code points,
written in ascending order. Membership stops at the first range that begins
above the code point, so that the lookup is short for the characters that come
first.
-/

namespace GuardedInstall.Text

/-- A table of closed ranges of code points, in ascending order. -/
abbrev Ranges := List (Nat × Nat)

namespace Ranges

/-- Whether a code point lies in one of the ranges of an ascending table. -/
def contains : Ranges → Nat → Bool
  | [], _ => false
  | (first, last) :: later, code =>
      if code < first then false
      else if code ≤ last then true
      else contains later code

/-- Whether the ranges are non-empty, in ascending order and apart. -/
def ascending : Ranges → Bool
  | [] => true
  | [(first, last)] => first ≤ last
  | (first, last) :: (next, end') :: later =>
      first ≤ last && last < next && ascending ((next, end') :: later)

end Ranges

end GuardedInstall.Text
