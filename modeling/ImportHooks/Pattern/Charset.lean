import ImportHooks.Text.Blank
import ImportHooks.Text.Word
import ImportHooks.Text.Fold

namespace ImportHooks.Pattern
open Text

abbrev Run := Nat × Nat

structure Charset where
  runs : List Run
  deriving DecidableEq, Repr

def lastChar : Nat := 0x10FFFF

def charAfter (n : Nat) : Nat := if n = 0xD7FF then 0xE000 else n + 1
def charBefore (n : Nat) : Nat := if n = 0xE000 then 0xD7FF else n - 1

def holds : List Run → Nat → Bool
  | [], _ => false
  | (first, last) :: rest, n => first ≤ n && (n ≤ last || holds rest n)

def insertRun (run : Run) : List Run → List Run
  | [] => [run]
  | next :: rest =>
    if run.2 + 1 < next.1 then run :: next :: rest
    else if next.2 + 1 < run.1 then next :: insertRun run rest
    else insertRun (min run.1 next.1, max run.2 next.2) rest

-- The gaps behind a run that ends at `last`. Where only surrogates stand between
-- two runs, the gap is the two characters next to them.
def gapsBehind (last : Nat) : List Run → List Run
  | [] => if last < lastChar then [(charAfter last, lastChar)] else []
  | next :: rest =>
    let low := charAfter last
    let high := charBefore next.1
    (min low high, max low high) :: gapsBehind next.2 rest

def leftOf : Run → List Run → List Run
  | run, [] => [run]
  | (first, last), next :: rest =>
    if next.2 < first then leftOf (first, last) rest
    else if last < next.1 then [(first, last)]
    else
      (if first < next.1 then [(first, charBefore next.1)] else []) ++
        (if next.2 < last then leftOf (charAfter next.2, last) rest else [])

namespace Charset

def none : Charset := ⟨[]⟩
def all : Charset := ⟨[(0, lastChar)]⟩
def range (first last : Char) : Charset := ⟨[(first.toNat, last.toNat)]⟩
def char (c : Char) : Charset := range c c
def ofRuns (runs : List Run) : Charset := ⟨runs.foldr insertRun []⟩
def ofChars (text : Text) : Charset := ofRuns (text.map fun c => (c.toNat, c.toNat))

def mem (set : Charset) (c : Char) : Bool := holds set.runs c.toNat

def union (left right : Charset) : Charset := ⟨right.runs.foldr insertRun left.runs⟩
def unions (sets : List Charset) : Charset := ofRuns (sets.flatMap (·.runs))

def complement (set : Charset) : Charset :=
  match set.runs with
  | [] => all
  | run :: rest => ⟨(if 0 < run.1 then [(0, charBefore run.1)] else []) ++ gapsBehind run.2 rest⟩

def meet (left right : Charset) : Charset :=
  ⟨left.runs.flatMap fun a => right.runs.filterMap fun b =>
    if max a.1 b.1 ≤ min a.2 b.2 then some (max a.1 b.1, min a.2 b.2) else Option.none⟩
def less (left right : Charset) : Charset := ⟨left.runs.flatMap fun run => leftOf run right.runs⟩
def differ (left right : Charset) : Charset := (left.union right).less (left.meet right)

def isAscii (set : Charset) : Bool := set.runs.all (·.2 < 0x80)

def single? (set : Charset) : Option Char :=
  match set.runs with
  | [(first, last)] => if first = last then some (Char.ofNat first) else Option.none
  | _ => Option.none

def caseless (set : Charset) : Charset :=
  ofRuns (set.runs ++ (casedChars.filter (holds set.runs ·.toNat)).flatMap fun c =>
    (caseVariants c).map fun v => (v.toNat, v.toNat))

def asciiCaseless (set : Charset) : Charset :=
  let letters := set.meet ⟨[(0x41, 0x5A), (0x61, 0x7A)]⟩
  let swap := fun n => if n < 0x61 then n + 0x20 else n - 0x20
  union set (ofRuns (letters.runs.map fun run => (swap run.1, swap run.2)))

end Charset

def digits : Charset := .ofRuns ((0x30, 0x39) :: digitRanges)
def blankChars : Charset := .ofRuns (blanks.map fun n => (n, n))
def wordChars : Charset := .ofRuns ([(0x30, 0x39), (0x41, 0x5A), (0x5F, 0x5F), (0x61, 0x7A)] ++ wordRanges)

end ImportHooks.Pattern
