import Std.Data.HashMap
import ImportHooks.Text.Decomposition

namespace ImportHooks.Text

def isSyllable (n : Nat) : Bool := 0xAC00 ≤ n && n < 0xAC00 + 11172

def syllableParts (n : Nat) : List Nat :=
  let index := n - 0xAC00
  let parts := [0x1100 + index / 588, 0x1161 + index % 588 / 28]
  if index % 28 = 0 then parts else parts ++ [0x11A7 + index % 28]

def syllable? (first second : Nat) : Option Nat :=
  if 0x1100 ≤ first && first < 0x1113 && 0x1161 ≤ second && second < 0x1176 then
    some (0xAC00 + ((first - 0x1100) * 21 + (second - 0x1161)) * 28)
  else if isSyllable first && (first - 0xAC00) % 28 = 0 && 0x11A7 < second && second < 0x11C3 then
    some (first + (second - 0x11A7))
  else none

def pairOf? (n : Nat) : Option (Nat × Nat) :=
  match composites.row? n with
  | some [whole, first, second] => if n = whole then some (first, second) else none
  | _ => none

def decompose : Nat → Nat → List Nat
  | 0, n => [n]
  | depth + 1, n =>
    if isSyllable n then syllableParts n
    else match pairOf? n with
      | some (first, second) => decompose depth first ++ [second]
      | none =>
        match oneWay.row? n with
        | some (source :: parts) => if n = source then parts else [n]
        | _ => [n]

def parts (text : Text) : Text := text.flatMap fun c => (decompose 4 c.toNat).map Char.ofNat

-- Combining characters stand in the order of their classes; those of one class keep
-- their order. The marks are given newest first.
def insertMark (c : Char) : Text → Text
  | [] => [c]
  | d :: rest => if combiningClass c < combiningClass d then d :: insertMark c rest else c :: d :: rest

structure Ordered where
  done : Text
  marks : Text

def Ordered.feed (s : Ordered) (c : Char) : Ordered :=
  if combiningClass c = 0 then ⟨c :: (s.marks ++ s.done), []⟩ else { s with marks := insertMark c s.marks }

def inOrder (text : Text) : Text :=
  let s := text.foldl Ordered.feed ⟨[], []⟩
  (s.marks ++ s.done).reverse

def pairs : Std.HashMap (Nat × Nat) Nat :=
  composites.foldl (fun pairs row =>
    match row with
    | [whole, first, second] => pairs.insert (first, second) whole
    | _ => pairs) {}

def compose? (first second : Char) : Option Char :=
  ((syllable? first.toNat second.toNat).or pairs[(first.toNat, second.toNat)]?).map Char.ofNat

structure Composer where
  done : Text
  open? : Option Char
  behind : Text

def Composer.text (s : Composer) : Text := s.behind ++ s.open?.toList ++ s.done

def Composer.feed (s : Composer) (c : Char) : Composer :=
  let reaches := s.behind.head?.all fun d => combiningClass d < combiningClass c
  match if reaches then s.open?.bind (compose? · c) else none with
  | some whole => { s with open? := some whole }
  | none => if combiningClass c = 0 then ⟨s.text, some c, []⟩ else { s with behind := c :: s.behind }

def composed (text : Text) : Text := ((inOrder (parts text)).foldl Composer.feed ⟨[], none, []⟩).text.reverse

end ImportHooks.Text
