/-!
# Order of texts

Texts are ordered by code points, which is also the byte order of their UTF-8 form.
-/

namespace EdgeGateway.Text

/-- Strict order of character lists by code points, a proper initial part first. -/
def before : List Char → List Char → Bool
  | [], [] => false
  | [], _ :: _ => true
  | _ :: _, [] => false
  | a :: as, b :: bs => if a = b then before as bs else a.toNat < b.toNat

def lt (a b : String) : Bool := before a.toList b.toList

end EdgeGateway.Text
