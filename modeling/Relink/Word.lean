namespace Relink.Word

/-- How many values a word of some bits has. -/
def size (bits : Nat) : Nat :=
  Nat.pow 2 bits

/-- The least integer that a word holds with a sign. -/
def least (bits : Nat) : Int :=
  -(size (bits - 1) : Int)

/-- The greatest integer that a word holds with a sign. -/
def greatest (bits : Nat) : Int :=
  (size (bits - 1) : Int) - 1

/-- Whether an integer has a place in a word, with a sign or without. -/
def fits (bits : Nat) (n : Int) : Bool :=
  least bits ≤ n && n < size bits

/-- The integer with a sign that a word keeps of any integer. -/
def wrap (bits : Nat) (n : Int) : Int :=
  Int.bmod n (size bits)

/-- The integer nearest to another between two. -/
def clamp (low high n : Int) : Int :=
  if n < low then low else if high < n then high else n

end Relink.Word
