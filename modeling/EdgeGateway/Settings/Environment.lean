import EdgeGateway.Double.Parse
import EdgeGateway.Settings.Path
import EdgeGateway.Text.Lowercase

/-!
# Environment

Variables of the environment reach a configuration in two ways. Placeholders in its text are
replaced by values, in one pass from left to right; and variables with the prefix of the gateway
override single settings.
-/

namespace EdgeGateway

/-- The variables of an environment; of two with one name the later counts. -/
abbrev Environment := List (String × String)

namespace Environment

def value? (env : Environment) (name : String) : Option String :=
  (env.reverse.find? (·.1 = name)).map (·.2)

/-! ### Placeholders -/

/-- A placeholder in braces: the name of a variable and what stands for it if it is not set. -/
structure Placeholder where
  name : String
  default : List Char := []

def isNameChar (c : Char) : Bool := c ≠ '\x7d' && c ≠ ':'

def placeholder? : List Char → Option (Placeholder × List Char)
  | '$' :: '\x7b' :: cs =>
    let name := cs.takeWhile isNameChar
    if name.isEmpty then none
    else match cs.dropWhile isNameChar with
      | '\x7d' :: rest => some ({ name := String.ofList name }, rest)
      | ':' :: '-' :: more =>
        match more.dropWhile (· ≠ '\x7d') with
        | _ :: rest =>
          some ({ name := String.ofList name, default := more.takeWhile (· ≠ '\x7d') }, rest)
        | [] => none
      | _ => none
  | _ => none

def Placeholder.text (p : Placeholder) (env : Environment) : List Char :=
  match env.value? p.name with
  | some value => value.toList
  | none => p.default

/-- Replaces placeholders; what has been inserted is not looked at again. -/
def substituteChars (env : Environment) : Nat → List Char → List Char
  | 0, cs => cs
  | _, [] => []
  | fuel + 1, c :: cs =>
    match placeholder? (c :: cs) with
    | some (p, rest) => p.text env ++ substituteChars env fuel rest
    | none => c :: substituteChars env fuel cs

def substitute (env : Environment) (text : String) : String :=
  String.ofList (env.substituteChars text.length text.toList)

/-! ### Overrides -/

def overridePrefix : List Char := "edgebridge__".toList

/-- Two underscores separate the names of a path. -/
def dots : List Char → List Char
  | '_' :: '_' :: rest => '.' :: dots rest
  | c :: rest => c :: dots rest
  | [] => []

/-- The path that a variable overrides. The case of its name does not matter. -/
def overridden? (name : String) : Option String :=
  let cs := (Text.lowercase name).toList
  if overridePrefix.isPrefixOf cs then some (String.ofList (dots (cs.drop overridePrefix.length)))
  else none

def integer? (text : String) : Option Int :=
  match text.toList with
  | '-' :: digits =>
    if digits.head? = some '+' then none
    else (Text.numberBelow? (pow2 63 + 1) digits).map fun n => -(n : Int)
  | cs => (Text.numberBelow? (pow2 63) cs).map fun n => (n : Int)

/-- The value of a variable: a boolean, an integer or a double if it reads like one. -/
def scalar (text : String) : Scalar :=
  match Text.lowercase text with
  | "true" => .boolean true
  | "false" => .boolean false
  | _ =>
    match integer? text with
    | some i => .integer i
    | none =>
      match Double.parse? text with
      | some d => .float d
      | none => .text text

def overrides (env : Environment) : List (String × Setting) :=
  env.filterMap fun (name, value) =>
    (overridden? name).map fun path => (path, .scalar .environment (scalar value))

end Environment
end EdgeGateway
