import EdgeGateway.Toml.Basic

/-!
# Settings

A tree of settings that several layers fill in one after the other. A layer that sets a table adds
to the table that is there; whatever else it sets replaces what is there.
-/

namespace EdgeGateway

/-- Where a setting comes from, as far as messages tell. -/
inductive Layer where
  | document
  | environment
  deriving DecidableEq, Repr

inductive Scalar where
  /-- A place in a list that no layer has filled. -/
  | unset
  | boolean (value : Bool)
  | integer (value : Int)
  | float (value : Double)
  | text (value : String)
  deriving DecidableEq, Repr

inductive Setting where
  | scalar (layer : Layer) (value : Scalar)
  | list (items : List Setting)
  | table (members : List (String × Setting))
  deriving Inhabited

namespace Setting

def unset : Setting := .scalar .document .unset

def members : Setting → List (String × Setting)
  | .table members => members
  | _ => []

def items : Setting → List Setting
  | .list items => items
  | _ => []

def updateMember (name : String) (f : Setting → Setting) :
    List (String × Setting) → List (String × Setting)
  | [] => [(name, f unset)]
  | (n, s) :: rest => if n = name then (n, f s) :: rest else (n, s) :: updateMember name f rest

mutual

def overlay : Setting → Setting → Setting
  | .table members, below => .table (membersOver members below.members)
  | above, _ => above

def membersOver : List (String × Setting) → List (String × Setting) → List (String × Setting)
  | [], below => below
  | (name, s) :: rest, below => membersOver rest (updateMember name s.overlay below)

end

mutual

def ofToml : Toml → Setting
  | .string s => .scalar .document (.text s)
  | .integer i => .scalar .document (.integer i)
  | .float d => .scalar .document (.float d)
  | .boolean b => .scalar .document (.boolean b)
  | .moment text => .scalar .document (.text text)
  | .array items => .list (ofTomlItems items)
  | .table members => .table (ofTomlMembers members)

def ofTomlItems : List Toml → List Setting
  | [] => []
  | v :: rest => ofToml v :: ofTomlItems rest

def ofTomlMembers : List (String × Toml) → List (String × Setting)
  | [] => []
  | (name, v) :: rest => (name, ofToml v) :: ofTomlMembers rest

end

end Setting
end EdgeGateway
