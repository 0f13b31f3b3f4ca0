import ImportHooks.Json.Token
import ImportHooks.Json.Number
import ImportHooks.Json.Quoted

namespace ImportHooks.Json

inductive Tree where
  | null | bool (value : Bool) | number (raw : Text) | text (raw : Text)
  | array (items : List Tree) | object (members : List (Text × Tree))
  deriving Repr

inductive Frame where
  | array (done : List Tree)
  | member (done : List (Text × Tree)) (key : Text)

inductive Expect where
  | value
  | item                                                          -- a first element or `]`
  | key (done : List (Text × Tree)) (first : Bool)             -- a first key may also be a closing brace
  | colon (done : List (Text × Tree)) (key : Text)
  | afterItem (done : List Tree)
  | afterMember (done : List (Text × Tree))
  | nothing (document : Tree)

structure Reader where
  expect : Expect
  frames : List Frame

namespace Reader

def start : Reader := ⟨.value, []⟩

def complete (value : Tree) : List Frame → Reader
  | [] => ⟨.nothing value, []⟩
  | .array done :: outer => ⟨.afterItem (value :: done), outer⟩
  | .member done key :: outer => ⟨.afterMember ((key, value) :: done), outer⟩

def value? (frames : List Frame) : Token → Option Reader
  | .null => some (complete .null frames)
  | .bool b => some (complete (.bool b) frames)
  | .number raw => some (complete (.number raw) frames)
  | .text raw => some (complete (.text raw) frames)
  | .openArray => some ⟨.item, frames⟩
  | .openObject => some ⟨.key [] true, frames⟩
  | _ => none

def step (r : Reader) (t : Token) : Option Reader :=
  match r.expect with
  | .value => value? r.frames t
  | .item => if t = .closeArray then some (complete (.array []) r.frames) else value? (.array [] :: r.frames) t
  | .key done first =>
    match t with
    | .text key => some ⟨.colon done key, r.frames⟩
    | .closeObject => if first then some (complete (.object done.reverse) r.frames) else none
    | _ => none
  | .colon done key => if t = .colon then some ⟨.value, .member done key :: r.frames⟩ else none
  | .afterItem done =>
    match t with
    | .comma => some ⟨.value, .array done :: r.frames⟩
    | .closeArray => some (complete (.array done.reverse) r.frames)
    | _ => none
  | .afterMember done =>
    match t with
    | .comma => some ⟨.key done false, r.frames⟩
    | .closeObject => some (complete (.object done.reverse) r.frames)
    | _ => none
  | .nothing _ => none

def document? (r : Reader) : Option Tree :=
  match r.expect with
  | .nothing document => some document
  | _ => none

end Reader

namespace Tree

def ofTokens? (tokens : List Token) : Option Tree := (tokens.foldlM Reader.step .start).bind Reader.document?

def read? (text : Text) : Option Tree := (tokens? text).bind ofTokens?

def decodeKeys? (members : List (Text × Tree)) : Option (List (Text × Tree)) :=
  members.mapM fun (key, value) => (Quoted.decode? key).map (·, value)

-- Can the whole value be kept: texts and keys decode, numbers are in range, and
-- at most `room` containers are open at once?
mutual
def holdable (room : Nat) : Tree → Bool
  | .null | .bool _ => true
  | .number raw => Number.inRange raw
  | .text raw => (Quoted.decode? raw).isSome
  | .array items => 0 < room && holdableItems (room - 1) items
  | .object members => 0 < room && holdableMembers (room - 1) members
def holdableItems (room : Nat) : List Tree → Bool
  | [] => true
  | item :: rest => holdable room item && holdableItems room rest
def holdableMembers (room : Nat) : List (Text × Tree) → Bool
  | [] => true
  | (key, value) :: rest =>
    (Quoted.decode? key).isSome && holdable room value && holdableMembers room rest
end

def text? : Tree → Option Text
  | .text raw => Quoted.decode? raw
  | _ => none

-- A record field under a key that may be given at most once.
def single? (key : Text) (members : List (Text × Tree)) : Option (Option Tree) :=
  match members.filter (·.1 = key) with
  | [] => some none
  | [member] => some (some member.2)
  | _ => none

end Tree
end ImportHooks.Json
