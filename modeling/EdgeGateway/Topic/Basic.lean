/-!
# Topic names and filters

A topic is a text cut into levels by `/`. A name, which a message carries, has no wildcard; in a
filter `+` stands for one level and `#` for all levels from its place on.
-/

namespace EdgeGateway.Topic

def maxLength : Nat := 65535

inductive Fault where
  | empty
  | tooLong
  | nullCharacter
  | wildcardInName
  | misplacedMultiWildcard
  | misplacedSingleWildcard
  deriving DecidableEq, Repr

def Fault.message : Fault → String
  | .empty => "topic cannot be empty"
  | .tooLong => "topic exceeds maximum length of 65535 bytes"
  | .nullCharacter => "topic cannot contain null character"
  | .wildcardInName => "topic name cannot contain wildcards"
  | .misplacedMultiWildcard => "multi-level wildcard must occupy the last level on its own"
  | .misplacedSingleWildcard => "single-level wildcard must occupy entire level"

def levels (topic : String) : List (List Char) := topic.toList.splitOn '/'

def checkText (topic : String) : Except Fault Unit :=
  if topic.isEmpty then .error .empty
  else if maxLength < topic.utf8ByteSize then .error .tooLong
  else if topic.toList.contains '\x00' then .error .nullCharacter
  else .ok ()

def checkName (topic : String) : Except Fault Unit := do
  checkText topic
  if topic.toList.any fun c => c = '+' || c = '#' then .error .wildcardInName else .ok ()

/-- Each level with a wildcard is that wildcard alone, and `#` stands last. -/
def checkLevels : List (List Char) → Except Fault Unit
  | [] => .ok ()
  | level :: rest =>
    if level.contains '#' && (level ≠ ['#'] || !rest.isEmpty) then .error .misplacedMultiWildcard
    else if level.contains '+' && level ≠ ['+'] then .error .misplacedSingleWildcard
    else checkLevels rest

def checkFilter (filter : String) : Except Fault Unit := do
  checkText filter
  checkLevels (levels filter)

/-- Matching level by level; `#` takes whatever levels are left, none included. -/
def matchLevels : List (List Char) → List (List Char) → Bool
  | topic, [] => topic.isEmpty
  | topic, level :: filter =>
    if level = ['#'] then true
    else match topic with
      | [] => false
      | here :: topic => (level = ['+'] || level = here) && matchLevels topic filter

/-- Whether the text starts with `$`: such topics stay hidden from leading wildcards. -/
def isReserved (topic : String) : Bool := topic.toList.head? = some '$'

def startsWithWildcard (filter : String) : Bool :=
  filter.toList.head? = some '+' || filter.toList.head? = some '#'

def matchesFilter (topic filter : String) : Bool :=
  !(isReserved topic && startsWithWildcard filter) && matchLevels (levels topic) (levels filter)

end EdgeGateway.Topic
