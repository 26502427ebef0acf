/-!
Sizes of machine words. Numbers here are unbounded; where a format gives a number some bits, the
bound is checked.
-/

namespace Docket

def fits (bits n : Nat) : Bool := n < Nat.pow 2 bits

end Docket
