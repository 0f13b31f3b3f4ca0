import ImportHooks.Pattern.Program

namespace ImportHooks.Pattern
open Text

structure Task where
  node : Nat
  place : Cursor

structure Visits where
  size : Nat
  rows : Array (Array Nat)

namespace Visits

def wordSize : Nat := 60

def none (size places : Nat) : Visits := ⟨size, .replicate places #[]⟩

def contains (v : Visits) (t : Task) : Bool :=
  match v.rows[t.place.offset]? with
  | some row => (row[t.node / wordSize]?.getD 0).testBit (t.node % wordSize)
  | Option.none => false

def insert (v : Visits) (t : Task) : Visits :=
  { v with rows := v.rows.modify t.place.offset fun row =>
      let row := if row.isEmpty then .replicate (v.size / wordSize + 1) 0 else row
      row.modify (t.node / wordSize) (· ||| 1 <<< (t.node % wordSize)) }

end Visits

-- Every task is new or ends at once, so nodes and places bound the rounds. What could
-- not be reached from a node at one place before cannot be reached from it now.
def Program.explore (p : Program) : Nat → List Task → Visits → Option Cursor × Visits
  | 0, _, visits => (none, visits)
  | _, [], visits => (none, visits)
  | rounds + 1, task :: tasks, visits =>
    if visits.contains task then p.explore rounds tasks visits
    else
      let visits := visits.insert task
      match p.nodes[task.node]? with
      | some (.one chars next) =>
        match task.place.after with
        | x :: rest =>
          if chars.mem x then p.explore rounds (⟨next, task.place.next x rest⟩ :: tasks) visits
          else p.explore rounds tasks visits
        | [] => p.explore rounds tasks visits
      | some (.look l next) =>
        if l.holds task.place then p.explore rounds (⟨next, task.place⟩ :: tasks) visits
        else p.explore rounds tasks visits
      | some (.fork first second) =>
        p.explore rounds (⟨first, task.place⟩ :: ⟨second, task.place⟩ :: tasks) visits
      | some .done => (some task.place, visits)
      | none => p.explore rounds tasks visits

def Program.findFrom (p : Program) (rounds : Nat) (visits : Visits) (offset : Nat) (before : Option Char) :
    Text → Option (Cursor × Cursor)
  | [] => (p.explore rounds [⟨p.entry, ⟨offset, before, []⟩⟩] visits).1.map (⟨offset, before, []⟩, ·)
  | c :: rest =>
    match p.explore rounds [⟨p.entry, ⟨offset, before, c :: rest⟩⟩] visits with
    | (some stop, _) => some (⟨offset, before, c :: rest⟩, stop)
    | (none, visits) => p.findFrom rounds visits (offset + 1) (some c) rest

def Program.find? (p : Program) (text : Text) : Option (Cursor × Cursor) :=
  p.findFrom (2 * p.nodes.size * (text.length + 1) + 2) (.none p.nodes.size (text.length + 1)) 0 none text

namespace Expr

def find? (e : Expr) (text : Text) : Option (Cursor × Cursor) := (Program.ofExpr e).find? text

def replaceFirst (e : Expr) (replacement text : Text) : Text :=
  match e.find? text with
  | some (first, last) => text.take first.offset ++ replacement ++ last.after
  | none => text

end Expr
end ImportHooks.Pattern
