/-! Sets of code points as ascending change points: membership flips at each of them. -/
namespace AccessorForge.Text.Ranges

/-- Whether `c` lies in the set whose membership is `inside` before the first change point. -/
def containsFrom (inside : Bool) : List Nat → Nat → Bool
  | [], _ => inside
  | p :: rest, c => if c < p then inside else containsFrom (!inside) rest c

def contains (changes : List Nat) (c : Nat) : Bool := containsFrom false changes c

end AccessorForge.Text.Ranges
