import ImportHooks.Pattern.Charset
import ImportHooks.Pattern.Look

namespace ImportHooks.Pattern
open Text

-- Preferences follow the simple form that the builders below keep: a first part that all
-- choices share is tried once, before any of them.
inductive Expr where
  | empty
  | literal (text : Text)
  | set (chars : Charset) (wide : Bool)
  | look (assertion : Look)
  | rep (body : Expr) (least : Nat) (most : Option Nat) (greedy : Bool)
  | group (index : Nat) (body : Expr)
  | cat (first rest : Expr)
  | alt (first rest : Expr)
  deriving DecidableEq, Repr

namespace Expr

def minLength? : Expr → Option Nat
  | .empty | .look _ => some 0
  | .literal text => some (utf8Length text)
  | .set chars _ => chars.runs.head?.map fun run => (Char.ofNat run.1).utf8Size
  | .rep body least _ _ => body.minLength?.map (· * least)
  | .group _ body => body.minLength?
  | .cat first rest => first.minLength?.bind fun a => rest.minLength?.map (a + ·)
  | .alt first rest => first.minLength?.bind fun a => rest.minLength?.map (min a)

def isWidthless : Expr → Bool
  | .empty | .look _ => true
  | .literal text => text.isEmpty
  | .set _ _ => false
  | .rep body _ most _ => most.isSome && body.isWidthless
  | .group _ body => body.isWidthless
  | .cat first rest | .alt first rest => first.isWidthless && rest.isWidthless

def isBoundAtStart : Expr → Bool
  | .look l => l = .start
  | .rep body least _ _ => 0 < least && body.isBoundAtStart
  | .group _ body => body.isBoundAtStart
  | .cat first rest => first.isBoundAtStart || (first.isWidthless && rest.isBoundAtStart)
  | .alt first rest => first.isBoundAtStart && rest.isBoundAtStart
  | .empty | .literal _ | .set _ _ => false

def isBoundAtEnd : Expr → Bool
  | .look l => l = .stop
  | .rep body least _ _ => 0 < least && body.isBoundAtEnd
  | .group _ body => body.isBoundAtEnd
  | .cat first rest => rest.isBoundAtEnd || (rest.isWidthless && first.isBoundAtEnd)
  | .alt first rest => first.isBoundAtEnd && rest.isBoundAtEnd
  | .empty | .literal _ | .set _ _ => false

def fail : Expr := .set .none false

def ofSet (chars : Charset) (wide : Bool) : Expr :=
  if chars.runs.isEmpty then fail
  else match chars.single? with
    | some c => .literal [c]
    | none => .set chars wide

def repeated (body : Expr) (least : Nat) (most : Option Nat) (greedy : Bool) : Expr :=
  let (least, most) :=
    if body.isWidthless then (min least 1, some ((most.map (min · 1)).getD 1)) else (least, most)
  if most = some 0 then .empty
  else if least = 1 ∧ most = some 1 then body
  else .rep body least most greedy

def parts : Expr → List Expr
  | .empty => []
  | .cat first rest => first :: rest.parts
  | e => [e]

def choices : Expr → List Expr
  | .alt first rest => first :: rest.choices
  | e => [e]

def mergeLiterals : List Expr → List Expr
  | [] => []
  | .literal text :: rest =>
    match mergeLiterals rest with
    | .literal more :: rest => .literal (text ++ more) :: rest
    | rest => .literal text :: rest
  | e :: rest => e :: mergeLiterals rest

def nestRow : List Expr → Expr
  | [] => .empty
  | [e] => e
  | e :: rest => .cat e (nestRow rest)

def nestChoice : List Expr → Expr
  | [] => fail
  | [e] => e
  | e :: rest => .alt e (nestChoice rest)

def row (exprs : List Expr) : Expr := nestRow (mergeLiterals (exprs.flatMap parts))

def char? : Expr → Option Char
  | .literal [c] => some c
  | _ => none

def set? : Expr → Option Charset
  | .set chars _ => some chars
  | _ => none

def merged (exprs : List Expr) : Expr :=
  match exprs.flatMap choices with
  | [e] => e
  | exprs =>
    match exprs.mapM char? with
    | some chars => ofSet (.ofChars chars) true
    | none =>
      match exprs.mapM set? with
      | some sets => ofSet (.unions sets) true
      | none => nestChoice exprs

def sharedParts : List Expr → List Expr → List Expr
  | a :: left, b :: right => if a = b then a :: sharedParts left right else []
  | _, _ => []

def isRow : Expr → Bool
  | .cat _ _ => true
  | _ => false

def shared (exprs : List Expr) : List Expr :=
  match exprs with
  | e :: rest => if exprs.all isRow then rest.foldl (fun front e => sharedParts front e.parts) e.parts else []
  | [] => []

def choice (exprs : List Expr) : Expr :=
  match merged exprs with
  | .alt first rest =>
    let exprs := (Expr.alt first rest).choices
    let front := shared exprs
    if front.isEmpty then .alt first rest
    else row (front ++ [merged (exprs.map fun e => row (e.parts.drop front.length))])
  | e => e

end Expr
end ImportHooks.Pattern
