import QueryGroup.Json.Token
import QueryGroup.Document.Tree
set_option autoImplicit false

/- From tokens to a tree. The reader keeps the containers that are still open, innermost
first, and what may come next. A token that may not come breaks the document: the open
containers are closed around a broken place and the remaining tokens are dropped. -/
namespace QueryGroup.Json

open QueryGroup.Document

abbrev Member := Option String × Tree

inductive Frame where
  | items (done : List Tree)
  | members (done : List Member)
  /-- An object whose member `name` awaits its value. -/
  | member (done : List Member) (name : Option String)

inductive Awaiting where
  | value
  | itemOrClose
  | nameOrClose
  | name
  | colon
  | separator
deriving DecidableEq

inductive Progress where
  | within (frames : List Frame) (awaiting : Awaiting)
  /-- A whole document was read; `trailing` tells whether more follows it. -/
  | finished (tree : Tree) (trailing : Bool)
  | failed (tree : Tree)

namespace Frame

def closeAround (inner : Tree) : Frame → Tree
  | .items done => .array (done.reverse ++ [inner])
  | .members done => .object (done.reverse ++ [(none, inner)])
  | .member done name => .object (done.reverse ++ [(name, inner)])

end Frame

namespace Progress

def fault (frames : List Frame) : Progress :=
  .failed (frames.foldl (fun inner frame => frame.closeAround inner) .broken)

/-- A whole value was read: it goes into the innermost container, or it is the document. -/
def deliver (value : Tree) : List Frame → Progress
  | [] => .finished value false
  | .items done :: outer => .within (.items (value :: done) :: outer) .separator
  | .member done name :: outer => .within (.members ((name, value) :: done) :: outer) .separator
  | .members done :: outer => .fault (.members done :: outer)

def startValue (frames : List Frame) : Token → Progress
  | .openArray => .within (.items [] :: frames) .itemOrClose
  | .openObject => .within (.members [] :: frames) .nameOrClose
  | .null => deliver .null frames
  | .bool value => deliver (.bool value) frames
  | .number value => deliver (.number value) frames
  | .string value => deliver (.string value) frames
  | _ => .fault frames

def startMember : List Frame → Token → Progress
  | .members done :: outer, .string name => .within (.member done name :: outer) .colon
  | frames, _ => .fault frames

def close? : List Frame → Token → Option Progress
  | .items done :: outer, .closeArray => some (deliver (.array done.reverse) outer)
  | .members done :: outer, .closeObject => some (deliver (.object done.reverse) outer)
  | _, _ => none

def separate (frames : List Frame) (token : Token) : Progress :=
  match frames, token with
  | .items done :: outer, .comma => .within (.items done :: outer) .value
  | .members done :: outer, .comma => .within (.members done :: outer) .name
  | _, _ => (close? frames token).getD (.fault frames)

def step (progress : Progress) (token : Token) : Progress :=
  match progress with
  | .within frames .value => startValue frames token
  | .within frames .itemOrClose => (close? frames token).getD (startValue frames token)
  | .within frames .nameOrClose => (close? frames token).getD (startMember frames token)
  | .within frames .name => startMember frames token
  | .within frames .colon =>
      match token with
      | .colon => .within frames .value
      | _ => .fault frames
  | .within frames .separator => separate frames token
  | .finished tree _ => .finished tree true
  | .failed tree => .failed tree

end Progress

/-- What the text of a document says, and whether only that is there. -/
structure Reading where
  tree : Tree
  alone : Bool

def Progress.reading : Progress → Reading
  | .finished tree trailing => ⟨tree, !trailing⟩
  | .failed tree => ⟨tree, true⟩
  | .within frames _ =>
      ⟨frames.foldl (fun inner frame => frame.closeAround inner) .broken, true⟩

def Reading.ofTokens (tokens : List Token) : Reading :=
  (tokens.foldl Progress.step (.within [] .value)).reading

def Reading.ofText (text : String) : Reading := ofTokens (Token.ofChars text.toList)

/-- The text as a value, if it is one JSON document and nothing else. -/
def Value.ofText? (text : String) : Option Value :=
  let reading := Reading.ofText text
  if reading.alone then reading.tree.toValue? Room.ofText else none

end QueryGroup.Json
