import Std.Data.HashMap
import ImportHooks.Pattern.ByteRange
import ImportHooks.Pattern.Expr

namespace ImportHooks.Pattern
open Text

structure Tally where
  states : Nat
  listed : Nat
  deriving DecidableEq, Repr

namespace Tally

def limit : Nat := 10 * Nat.pow 2 20
def stateSize : Nat := 32
def stepSize : Nat := 8
def branchSize : Nat := 4

def size (t : Tally) : Nat := t.states * stateSize + t.listed

def check (t : Tally) : Option Tally := if limit < t.size then none else some t

def state (t : Tally) (steps : Nat) : Option Tally := check ⟨t.states + 1, t.listed + steps * stepSize⟩

def branch (t : Tally) (count : Nat) : Option Tally := check { t with listed := t.listed + count * branchSize }

end Tally

-- States that were made for the same steps are used again as long as their slot in
-- a table of fixed size has not been taken by another.
structure Slots (Key : Type) where
  size : Nat
  taken : Std.HashMap Nat (Key × Nat)

namespace Slots

def mix (h : UInt64) (n : Nat) : UInt64 := (h ^^^ n.toUInt64) * 1099511628211
def slot (size : Nat) (numbers : List Nat) : Nat := (numbers.foldl mix 14695981039346656037).toNat % size

def find? {Key : Type} [DecidableEq Key] (s : Slots Key) (slot : Nat) (key : Key) : Option Nat :=
  match s.taken[slot]? with
  | some (other, state) => if other = key then some state else none
  | none => none

def take {Key : Type} (s : Slots Key) (slot : Nat) (key : Key) (state : Nat) : Slots Key :=
  { s with taken := s.taken.insert slot (key, state) }

end Slots

structure Step where
  bytes : ByteRange
  next : Nat
  deriving DecidableEq, Repr

structure Stem where
  steps : List Step
  last : Option ByteRange

def Stem.close (s : Stem) (next : Nat) : List Step :=
  match s.last with
  | some bytes => ⟨bytes, next⟩ :: s.steps
  | none => s.steps

-- Reading forward, parts share the states for their first bytes while they are
-- made, and equal states for their last ones.
structure Forward where
  tally : Tally
  slots : Slots (List Step)
  stems : List Stem

namespace Forward

def freeze (f : Forward) (steps : List Step) : Option (Forward × Nat) := do
  let steps := steps.reverse
  let slot := Slots.slot f.slots.size (steps.flatMap fun s => [s.bytes.1, s.bytes.2, s.next])
  match f.slots.find? slot steps with
  | some state => some (f, state)
  | none =>
    let tally ← f.tally.state steps.length
    some ({ f with tally, slots := f.slots.take slot steps f.tally.states }, f.tally.states)

def settle : Nat → Nat → Forward → Option Forward
  | 0, next, f =>
    match f.stems with
    | top :: below => some { f with stems := ⟨top.close next, none⟩ :: below }
    | [] => some f
  | count + 1, next, f =>
    match f.stems with
    | top :: below => do
      let (f, state) ← ({ f with stems := below } : Forward).freeze (top.close next)
      settle count state f
    | [] => some f

def sharedDepth : List ByteRange → List Stem → Nat
  | bytes :: part, stem :: stems => if stem.last = some bytes then sharedDepth part stems + 1 else 0
  | _, _ => 0

def add (target : Nat) (f : Forward) (part : List ByteRange) : Option Forward := do
  let shared := sharedDepth part f.stems.reverse
  let f ← f.settle (f.stems.length - (shared + 1)) target
  match f.stems, part.drop shared with
  | top :: below, bytes :: rest =>
    let grown := { top with last := some bytes } :: below
    some { f with stems := rest.foldl (fun stems bytes => ⟨[], some bytes⟩ :: stems) grown }
  | _, _ => some f

def measure (parts : List (List ByteRange)) (t : Tally) : Option Tally := do
  let target := t.states
  let f ← parts.foldlM (add target) ⟨← t.state 0, ⟨10000, {}⟩, [⟨[], none⟩]⟩
  let f ← f.settle (f.stems.length - 1) target
  match f.stems with
  | root :: _ => (f.freeze root.steps).map (·.1.tally)
  | [] => some f.tally

end Forward

def measureByte (s : (Tally × Slots (Nat × ByteRange)) × Nat) (bytes : ByteRange) :
    Option ((Tally × Slots (Nat × ByteRange)) × Nat) := do
  let ((tally, slots), next) := s
  let slot := Slots.slot slots.size [next, bytes.1, bytes.2]
  match slots.find? slot (next, bytes) with
  | some state => some ((tally, slots), state)
  | none => some ((← tally.state 0, slots.take slot (next, bytes) tally.states), tally.states)

def measureBackward (parts : List (List ByteRange)) (t : Tally) : Option Tally := do
  let t ← (← t.state 0).state 0
  let stop := t.states - 1
  let (t, _) ← parts.foldlM (fun (s : Tally × Slots (Nat × ByteRange)) part => do
    let ((t, slots), _) ← part.foldlM measureByte (s, stop)
    return (← t.branch 1, slots)) (t, ⟨1000, {}⟩)
  some t

-- Literals that are alternatives share the states for their first bytes in runs:
-- a literal that ends at a state ends the run of its steps.
structure Twig where
  steps : List (Nat × Nat × Nat)
  runs : Nat

abbrev Twigs := Array Twig

def Twig.stop (t : Twig) : Twig := if t.steps.isEmpty && 0 < t.runs then t else { t with runs := t.runs + 1 }

def growByte (s : Twigs × Nat) (byte : Nat) : Twigs × Nat :=
  let (twigs, reached) := s
  match twigs[reached]? with
  | none => s
  | some twig =>
    match twig.steps.find? fun (run, b, _) => run = twig.runs && b = byte with
    | some (_, _, target) => (twigs, target)
    | none =>
      let grown := { twig with steps := (twig.runs, byte, twigs.size) :: twig.steps }
      ((twigs.setIfInBounds reached grown).push ⟨[], 0⟩, twigs.size)

def growLiteral (twigs : Twigs) (bytes : List Nat) : Twigs :=
  let (twigs, reached) := bytes.foldl growByte (twigs, 0)
  twigs.modify reached Twig.stop

def Twig.measure (twig : Twig) (t : Tally) : Option Tally := do
  let counts := (List.range (twig.runs + 1)).map fun run => (twig.steps.filter (·.1 = run)).length
  let filled := counts.filter (0 < ·)
  let t ← filled.foldlM (fun t n => t.state (if n = 1 then 0 else n)) t
  (← t.state 0).branch (filled.length + twig.runs)

def measureLiterals (backward : Bool) (texts : List Text) (t : Tally) : Option Tally := do
  let spell := fun (text : Text) => ((if backward then (utf8 text).reverse else utf8 text)).map (·.toNat)
  let twigs := (texts.map spell).foldl growLiteral #[⟨[], 0⟩]
  let root := twigs[0]?.toList
  let others := (twigs.toList.drop 1).filter fun twig => !twig.steps.isEmpty
  (root ++ others).foldlM (fun t twig => twig.measure t) (← t.state 0)

structure Fragment where
  tally : Tally
  branches : Bool

namespace Fragment

def leave (p : Fragment) : Option Tally := if p.branches then p.tally.branch 1 else some p.tally

def plain (t : Tally) : Option Fragment := (t.state 0).map (⟨·, false⟩)

abbrev Measure := Tally → Option Fragment

def before (first : Fragment) (second : Measure) : Option Fragment := do
  let next ← second first.tally
  return { next with tally := ← { first with tally := next.tally }.leave }

def times (body : Measure) : Nat → Fragment → Option Fragment
  | 0, p => some p
  | n + 1, p => (p.before body).bind (times body n)

def exactly (body : Measure) (n : Nat) (t : Tally) : Option Fragment :=
  match n with
  | 0 => plain t
  | n + 1 => (body t).bind (times body n)

def rounds (body : Measure) : Nat → Fragment → Option Fragment
  | 0, p => some p
  | n + 1, p => do
    let round ← body (← p.tally.state 0)
    let t ← (← { p with tally := round.tally }.leave).branch 2
    rounds body n { round with tally := t }

def loop (body : Measure) (t : Tally) : Option Tally := do
  let round ← body t
  let t ← round.tally.state 0
  let t ← { round with tally := t }.leave
  t.branch 1

end Fragment

structure Choice where
  text? : Option Text
  measure : Fragment.Measure

namespace Choice

def joined (first second : Fragment.Measure) (others : List Choice) (t : Tally) : Option Fragment := do
  let a ← first t
  let b ← second a.tally
  let t ← (← b.tally.state 0).state 0
  let t ← { a with tally := t }.leave
  let t ← { b with tally := t }.leave
  let t ← others.foldlM (fun t other => do (← (← other.measure t).leave).branch 1) (← t.branch 2)
  return ⟨t, false⟩

def measureAll (backward : Bool) (choices : List Choice) (t : Tally) : Option Fragment :=
  match choices with
  | [] => Fragment.plain t
  | [only] => only.measure t
  | first :: second :: others =>
    match choices.mapM (·.text?) with
    | some texts => (measureLiterals backward texts t).map (⟨·, false⟩)
    | none => joined first.measure second.measure others t

end Choice

open Fragment in
def Expr.measureChoices (backward : Bool) : Expr → List Choice
  | .empty | .look _ => [⟨none, plain⟩]
  | .literal text =>
    [⟨text, fun t => (utf8 text).foldlM (fun p _ => do return ⟨← p.tally.state 0, false⟩) ⟨t, false⟩⟩]
  | .set chars _ =>
    let parts := chars.runs.flatMap runBytes
    let spread := fun t => if backward then measureBackward parts t else Forward.measure parts t
    let measure := fun (t : Tally) => if chars.isAscii then (t.state 0).bind (·.state chars.runs.length) else spread t
    [⟨none, fun t => (measure t).map (⟨·, false⟩)⟩]
  | .group _ body =>
    let inner := Choice.measureAll backward (body.measureChoices backward)
    [⟨none, fun t => do
      if backward then inner t
      else
        let p ← inner (← t.state 0)
        let t ← p.tally.state 0
        return ⟨← { p with tally := t }.leave, false⟩⟩]
  | .cat first rest =>
    let a := Choice.measureAll backward (first.measureChoices backward)
    let b := Choice.measureAll backward (rest.measureChoices backward)
    [⟨none, fun t => if backward then (b t).bind (·.before a) else (a t).bind (·.before b)⟩]
  | .alt first rest =>
    let text? := match first with | .literal text => some text | _ => none
    ⟨text?, Choice.measureAll backward (first.measureChoices backward)⟩ :: rest.measureChoices backward
  | .rep body least most _ =>
    let inner := Choice.measureAll backward (body.measureChoices backward)
    [⟨none, fun t => do
      match least, most with
      | 0, some 1 =>
        let round ← inner (← t.state 0)
        let t ← (← round.tally.state 0).branch 2
        return ⟨← { round with tally := t }.leave, false⟩
      | least, some most =>
        if least = most then exactly inner least t
        else
          let front ← exactly inner least t
          let p ← rounds inner (most - least) { front with tally := ← front.tally.state 0 }
          return ⟨← p.leave, false⟩
      | 0, none =>
        if body.minLength?.any (0 < ·) then
          let round ← inner (← t.state 0)
          return ⟨← (← round.leave).branch 1, true⟩
        else
          let t ← (← (← loop inner t).state 0).state 0
          return ⟨← t.branch 3, false⟩
      | 1, none => return ⟨← loop inner t, true⟩
      | n + 1, none =>
        let last ← (← exactly inner n t).before inner
        let t ← { last with tally := ← last.tally.state 0 }.leave
        return ⟨← t.branch 1, true⟩⟩]

def Expr.measure (backward : Bool) (e : Expr) : Option Tally := do
  let bound := if backward then e.isBoundAtEnd else e.isBoundAtStart
  let inner := Choice.measureAll backward (e.measureChoices backward)
  let t ← (Tally.mk 0 0).state 0
  let t ← if bound then some t else (← (← t.state 0).state 1).branch 2
  let p ← inner (← if backward then some t else t.state 0)
  let t ← if backward then some p.tally else p.tally.state 0
  let t ← { p with tally := t }.leave
  t.state 0

def Expr.fits (e : Expr) : Bool := (e.measure false).isSome && (e.measure true).isSome

end ImportHooks.Pattern
