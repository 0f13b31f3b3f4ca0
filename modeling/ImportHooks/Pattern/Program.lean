import ImportHooks.Pattern.Expr

namespace ImportHooks.Pattern
open Text

inductive Node where
  | one (chars : Charset) (next : Nat)
  | look (assertion : Look) (next : Nat)
  | fork (first second : Nat)
  | done
  deriving DecidableEq, Repr

abbrev Nodes := Array Node

structure Layout where
  nodes : Nodes
  entry : Nat

namespace Layout

def add (nodes : Nodes) (node : Node) : Layout :=
  let entry := nodes.size
  ⟨nodes.push node, entry⟩

def forkTo (greedy : Bool) (round exit : Nat) : Node := if greedy then .fork round exit else .fork exit round

def copies (body : Nat → Nodes → Layout) : Nat → Layout → Layout
  | 0, l => l
  | n + 1, l => copies body n (body l.entry l.nodes)

def options (body : Nat → Nodes → Layout) (greedy : Bool) (exit : Nat) : Nat → Layout → Layout
  | 0, l => l
  | n + 1, l =>
    let round := body l.entry l.nodes
    options body greedy exit n (add round.nodes (forkTo greedy round.entry exit))

def loop (body : Nat → Nodes → Layout) (greedy : Bool) (exit : Nat) (nodes : Nodes) : Layout × Nat :=
  let behind := nodes.size
  let round := body behind (nodes.push .done)
  (⟨round.nodes.setIfInBounds behind (forkTo greedy round.entry exit), round.entry⟩, behind)

def literal (text : Text) (next : Nat) (nodes : Nodes) : Layout :=
  text.foldr (fun c l => add l.nodes (.one (.char c) l.entry)) ⟨nodes, next⟩

end Layout

-- Adds the nodes of an expression that goes on at `next`. A repeat of what may match
-- the empty text is left through a node of its own, behind a round and in front of
-- all of them; any other repeat from zero is entered behind its round.
def Expr.layOut : Expr → Nat → Nodes → Layout
  | .empty, next, nodes => ⟨nodes, next⟩
  | .literal text, next, nodes => .literal text next nodes
  | .set chars _, next, nodes => .add nodes (.one chars next)
  | .look l, next, nodes => .add nodes (.look l next)
  | .group _ body, next, nodes => body.layOut next nodes
  | .cat first rest, next, nodes =>
    let l := rest.layOut next nodes
    first.layOut l.entry l.nodes
  | .alt first rest, next, nodes =>
    let l := first.layOut next nodes
    let r := rest.layOut next l.nodes
    .add r.nodes (.fork l.entry r.entry)
  | .rep body least (some most) greedy, next, nodes =>
    .copies body.layOut least (.options body.layOut greedy next (most - least) ⟨nodes, next⟩)
  | .rep body 0 none greedy, next, nodes =>
    let (l, behind) := Layout.loop body.layOut greedy next nodes
    if body.minLength?.any (0 < ·) then ⟨l.nodes, behind⟩ else .add l.nodes (Layout.forkTo greedy l.entry next)
  | .rep body (least + 1) none greedy, next, nodes =>
    .copies body.layOut least (Layout.loop body.layOut greedy next nodes).1

structure Program where
  nodes : Nodes
  entry : Nat

def Program.ofExpr (e : Expr) : Program :=
  let l := e.layOut 0 #[.done]
  ⟨l.nodes, l.entry⟩

end ImportHooks.Pattern
