import EdgeGateway.Double.Basic

/-!
# TOML values

The values of a document and the two dialects in which documents are written. Points in time are
kept as texts in their normal form.
-/

namespace EdgeGateway

inductive Toml where
  | string (value : String)
  | integer (value : Int)
  | float (value : Double)
  | boolean (value : Bool)
  | moment (text : String)
  | array (items : List Toml)
  | table (members : List (String × Toml))
  deriving Inhabited, Repr

namespace Toml

structure Dialect where
  /-- Whether inline tables may extend over lines and end with a comma. -/
  looseInlineTables : Bool
  /-- Whether strings know the escapes `\e` and `\xHH`. -/
  shortEscapes : Bool
  /-- Whether times of day may leave out the seconds. -/
  optionalSeconds : Bool
  /-- Whether numbers below the least double read as negative infinity. -/
  admitsNegativeOverflow : Bool
  /-- Whether a fraction of a second is shown even if it is zero. -/
  keepsZeroFraction : Bool
  deriving DecidableEq, Repr

def Dialect.plain : Dialect where
  looseInlineTables := false
  shortEscapes := false
  optionalSeconds := false
  admitsNegativeOverflow := true
  keepsZeroFraction := false

def Dialect.extended : Dialect where
  looseInlineTables := true
  shortEscapes := true
  optionalSeconds := true
  admitsNegativeOverflow := false
  keepsZeroFraction := true

/-- Arrays, inline tables and dotted keys nest less deep than this. -/
def depthLimit : Nat := 80

end Toml
end EdgeGateway
