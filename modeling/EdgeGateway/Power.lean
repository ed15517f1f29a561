/-!
# Powers

Powers of two and ten: the sizes of machine words, the binary places of doubles and the weights of
decimal digits.
-/

namespace EdgeGateway

def pow2 (n : Nat) : Nat := Nat.pow 2 n

def pow10 (n : Nat) : Nat := Nat.pow 10 n

end EdgeGateway
