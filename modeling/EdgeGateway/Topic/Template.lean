import EdgeGateway.Text.Numeral
import EdgeGateway.Topic.Basic

/-!
# Destination templates

A template changes the topic of a message. It is text with placeholders in braces: `#` for the
whole topic, a number for one of its levels, counted from 1, and any other name for the value
registered under it. The template that is the `#` placeholder alone leaves every topic as it is.
-/

namespace EdgeGateway.Topic

inductive Template.Segment where
  | literal (text : List Char)
  | wholeTopic
  | level (number : Nat)
  | token (name : List Char)
  deriving DecidableEq, Repr

structure Template where
  source : String
  segments : List Template.Segment
  deriving DecidableEq, Repr

namespace Template

def passThrough : String := "\x7b#\x7d"

inductive ParseFault where
  | unmatchedClose
  | unterminatedOpen
  | emptyOrNested
  | levelZero
  deriving DecidableEq, Repr

def ParseFault.message : ParseFault → String
  | .unmatchedClose => "unmatched '\x7d'"
  | .unterminatedOpen => "unterminated '\x7b'"
  | .emptyOrNested => "empty or nested placeholder"
  | .levelZero => "level index starts at 1"

inductive ExpandFault where
  | noLevel (topic : String) (number : Nat)
  | unknownToken (name : String)
  | invalid (topic : String) (fault : Topic.Fault)
  deriving DecidableEq, Repr

def ExpandFault.message (source : String) : ExpandFault → String
  | .noLevel topic number =>
    s!"invalid topic pattern '{source}': topic '{topic}' has no level {number}"
  | .unknownToken name =>
    s!"invalid topic pattern '{source}': unknown token '" ++ "\x7b" ++ name ++ "\x7d'"
  | .invalid topic fault => s!"invalid destination topic '{topic}': {fault.message}"

def placeholder (text : List Char) : Except ParseFault Segment :=
  if text = ['#'] then .ok .wholeTopic
  else match Text.numberBelow? (pow2 64) text with
    | some 0 => .error .levelZero
    | some n => .ok (.level n)
    | none => .ok (.token text)

/-- A literal segment, left out where it would be empty. -/
def literal (text : List Char) : List Segment := if text.isEmpty then [] else [.literal text]

mutual

/-- The segments of a text, given the literal text just read, last character first. -/
def parseText (read : List Char) : List Char → Except ParseFault (List Segment)
  | [] => .ok (literal read.reverse)
  | c :: rest =>
    if c = '\x7b' then do
      let segments ← parseToken [] rest
      return literal read.reverse ++ segments
    else if c = '\x7d' then .error .unmatchedClose
    else parseText (c :: read) rest

def parseToken (read : List Char) : List Char → Except ParseFault (List Segment)
  | [] => .error .unterminatedOpen
  | c :: rest =>
    if c ≠ '\x7d' then parseToken (c :: read) rest
    else if read.isEmpty || read.contains '\x7b' then .error .emptyOrNested
    else do
      let segment ← placeholder read.reverse
      let segments ← parseText [] rest
      return segment :: segments

end

def parse (source : String) : Except ParseFault Template := do
  let segments ← parseText [] source.toList
  return { source, segments }

def isPassThrough (t : Template) : Bool := t.source = passThrough

def Segment.expand (topic : String) (values : List (String × String)) :
    Segment → Except ExpandFault (List Char)
  | .literal text => .ok text
  | .wholeTopic => .ok topic.toList
  | .level number =>
    match (levels topic)[number - 1]? with
    | some text => .ok text
    | none => .error (.noLevel topic number)
  | .token name =>
    match values.find? (·.1.toList = name) with
    | some (_, value) => .ok value.toList
    | none => .error (.unknownToken (String.ofList name))

def expandSegments (topic : String) (values : List (String × String)) :
    List Segment → Except ExpandFault (List Char)
  | [] => .ok []
  | segment :: rest => do
    let text ← segment.expand topic values
    let texts ← expandSegments topic values rest
    return text ++ texts

/-- The destination of a topic: the segments put together, if that makes a valid name. -/
def expand (t : Template) (topic : String) (values : List (String × String)) :
    Except ExpandFault String :=
  if t.isPassThrough then .ok topic
  else do
    let text ← expandSegments topic values t.segments
    let result := String.ofList text
    match checkName result with
    | .ok () => return result
    | .error fault => .error (.invalid result fault)

end Template
end EdgeGateway.Topic
