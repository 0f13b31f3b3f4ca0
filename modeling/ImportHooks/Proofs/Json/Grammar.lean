import Mathlib.Data.List.Chain
import ImportHooks.Json.Tree

namespace ImportHooks.Json
open Text

inductive TextBody : Text → Prop where
  | nil : TextBody []
  | plain {c rest} (quote : c ≠ '"') (slash : c ≠ '\\') (shown : 0x20 ≤ c.toNat) (body : TextBody rest) :
      TextBody (c :: rest)
  | escape {c rest} (known : isEscape c = true) (body : TextBody rest) : TextBody ('\\' :: c :: rest)
  | unicode {a b c d rest} (first : isHex a = true) (second : isHex b = true) (third : isHex c = true)
      (fourth : isHex d = true) (body : TextBody rest) : TextBody ('\\' :: 'u' :: a :: b :: c :: d :: rest)

def isPlain (c : Char) : Bool := c ≠ '"' && c ≠ '\\' && 0x20 ≤ c.toNat

theorem TextBody.unescaped {raw : Text} (plain : raw.all isPlain = true) : TextBody raw := by
  induction raw with
  | nil => exact .nil
  | cons c raw ih =>
    simp only [List.all_cons, isPlain, ne_eq, decide_not, Bool.and_eq_true, Bool.not_eq_true', decide_eq_false_iff_not,
      decide_eq_true_eq] at plain
    obtain ⟨⟨⟨quote, slash⟩, shown⟩, rest⟩ := plain
    exact .plain quote slash shown (ih rest)

namespace Token

def written : Token → Text
  | .openObject => ['\x7b'] | .closeObject => ['\x7d']
  | .openArray => ['['] | .closeArray => [']']
  | .colon => [':'] | .comma => [',']
  | .null => ['n', 'u', 'l', 'l']
  | .bool true => ['t', 'r', 'u', 'e']
  | .bool false => ['f', 'a', 'l', 's', 'e']
  | .number raw => raw
  | .text raw => '"' :: raw ++ ['"']

def Proper : Token → Prop
  | .number raw => isNumber raw = true
  | .text raw => TextBody raw
  | _ => True

def isBare : Token → Bool
  | .null | .bool _ | .number _ => true
  | _ => false

def isOpening : Token → Bool
  | .openObject | .openArray => true
  | _ => false

def isClosing : Token → Bool
  | .closeObject | .closeArray => true
  | _ => false

def endsValue : Token → Bool
  | .null | .bool _ | .number _ | .text _ | .closeObject | .closeArray => true
  | _ => false

end Token

namespace Tree

mutual
def tokens : Tree → List Token
  | .null => [.null]
  | .bool b => [.bool b]
  | .number raw => [.number raw]
  | .text raw => [.text raw]
  | .array items => .openArray :: itemTokens items ++ [.closeArray]
  | .object members => .openObject :: memberTokens members ++ [.closeObject]
def itemTokens : List Tree → List Token
  | [] => []
  | item :: rest => tokens item ++ moreItems rest
def moreItems : List Tree → List Token
  | [] => []
  | item :: rest => .comma :: tokens item ++ moreItems rest
def memberTokens : List (Text × Tree) → List Token
  | [] => []
  | (key, value) :: rest => .text key :: .colon :: tokens value ++ moreMembers rest
def moreMembers : List (Text × Tree) → List Token
  | [] => []
  | (key, value) :: rest => .comma :: .text key :: .colon :: tokens value ++ moreMembers rest
end

end Tree

theorem Tree.tokens_head (tree : Tree) : ∃ t rest, tree.tokens = t :: rest ∧ t.isClosing = false := by
  cases tree <;> exact ⟨_, _, rfl, rfl⟩

namespace Reader

def Reads (before : Reader) (tokens : List Token) (after : Reader) : Prop :=
  ∀ rest, (tokens ++ rest).foldlM Reader.step before = rest.foldlM Reader.step after

theorem Reads.append {a b c : Reader} {first second : List Token} (left : Reads a first b) (right : Reads b second c) :
    Reads a (first ++ second) c := by
  intro rest
  rw [List.append_assoc, left, right]

theorem Reads.token {before after : Reader} {t : Token} (step : before.step t = some after) : Reads before [t] after := by
  intro rest
  simp [step]

theorem Reads.cons {a b c : Reader} {t : Token} {rest : List Token} (step : a.step t = some b) (right : Reads b rest c) :
    Reads a (t :: rest) c := (Reads.token step).append right

theorem Reads.item {frames : List Frame} {tree : Tree} {after : Reader}
    (reads : Reads ⟨.value, .array [] :: frames⟩ tree.tokens after) : Reads ⟨.item, frames⟩ tree.tokens after := by
  obtain ⟨t, others, written, opens⟩ := tree.tokens_head
  have other : t ≠ .closeArray := by
    rintro rfl
    cases opens
  intro rest
  rw [← reads rest, written]
  simp only [List.cons_append, List.foldlM_cons, Reader.step, if_neg other]

mutual
theorem reads_tokens (tree : Tree) (frames : List Frame) : Reads ⟨.value, frames⟩ tree.tokens (complete tree frames) := by
  cases tree with
  | null | bool | number | text => exact .token rfl
  | array items =>
    cases items with
    | nil => exact .cons rfl (.token rfl)
    | cons item rest =>
      have first : Reads ⟨.item, frames⟩ item.tokens ⟨.afterItem [item], frames⟩ :=
        (reads_tokens item (.array [] :: frames)).item
      have others := first.append (reads_moreItems rest [item] frames)
      exact .cons rfl (others.append (.token (by simp [Reader.step])))
  | object members =>
    cases members with
    | nil => exact .cons rfl (.token rfl)
    | cons member rest =>
      obtain ⟨key, value⟩ := member
      have first : Reads ⟨.key [] true, frames⟩ (.text key :: .colon :: value.tokens) ⟨.afterMember [(key, value)], frames⟩ :=
        .cons rfl (.cons rfl (reads_tokens value (.member [] key :: frames)))
      have others := first.append (reads_moreMembers rest [(key, value)] frames)
      exact .cons rfl (others.append (.token (by simp [Reader.step])))
theorem reads_moreItems (items done : List Tree) (frames : List Frame) :
    Reads ⟨.afterItem done, frames⟩ (Tree.moreItems items) ⟨.afterItem (items.reverse ++ done), frames⟩ := by
  cases items with
  | nil => exact fun _ => rfl
  | cons item rest =>
    have first : Reads ⟨.afterItem done, frames⟩ (.comma :: item.tokens) ⟨.afterItem (item :: done), frames⟩ :=
      .cons rfl (reads_tokens item (.array done :: frames))
    rw [List.reverse_cons, List.append_assoc, List.singleton_append]
    exact first.append (reads_moreItems rest (item :: done) frames)
theorem reads_moreMembers (members done : List (Text × Tree)) (frames : List Frame) :
    Reads ⟨.afterMember done, frames⟩ (Tree.moreMembers members) ⟨.afterMember (members.reverse ++ done), frames⟩ := by
  cases members with
  | nil => exact fun _ => rfl
  | cons member rest =>
    obtain ⟨key, value⟩ := member
    have first : Reads ⟨.afterMember done, frames⟩ (.comma :: .text key :: .colon :: value.tokens)
        ⟨.afterMember ((key, value) :: done), frames⟩ :=
      .cons rfl (.cons rfl (.cons rfl (reads_tokens value (.member done key :: frames))))
    rw [List.reverse_cons, List.append_assoc, List.singleton_append]
    exact first.append (reads_moreMembers rest ((key, value) :: done) frames)
end

theorem after_separator {r s : Reader} {a : Token} (separates : a = .comma ∨ a = .colon) (step : r.step a = some s) :
    s.expect = .value ∨ ∃ done, s.expect = .key done false := by
  cases h : r.expect with
  | colon done key =>
    rcases separates with rfl | rfl
    · simp [Reader.step, h] at step
    · simp only [Reader.step, h, if_pos, Option.some.injEq] at step
      exact .inl (step ▸ rfl)
  | afterItem done =>
    rcases separates with rfl | rfl
    · simp only [Reader.step, h, Option.some.injEq] at step
      exact .inl (step ▸ rfl)
    · simp [Reader.step, h] at step
  | afterMember done =>
    rcases separates with rfl | rfl
    · simp only [Reader.step, h, Option.some.injEq] at step
      exact .inr ⟨done, step ▸ rfl⟩
    · simp [Reader.step, h] at step
  | _ => rcases separates with rfl | rfl <;> simp [Reader.step, h, value?] at step

theorem closing_refused {s : Reader} {b : Token} (closing : b.isClosing = true)
    (awaits : s.expect = .value ∨ ∃ done, s.expect = .key done false) : s.step b = none := by
  rcases awaits with h | ⟨done, h⟩ <;> cases b <;> simp_all [Token.isClosing, Reader.step, value?]

theorem value?_bare {frames : List Frame} {a : Token} {s : Reader} (bare : a.isBare = true) (step : value? frames a = some s) :
    ∃ value, s = complete value frames := by
  cases a with
  | null | bool | number => exact ⟨_, (Option.some.inj step).symm⟩
  | _ => simp [Token.isBare] at bare

theorem after_bare {r s : Reader} {a : Token} (bare : a.isBare = true) (step : r.step a = some s) :
    ∃ value frames, s = complete value frames := by
  cases h : r.expect with
  | value =>
    simp only [Reader.step, h] at step
    obtain ⟨value, whole⟩ := value?_bare bare step
    exact ⟨value, _, whole⟩
  | item =>
    have other : a ≠ .closeArray := by rintro rfl; simp [Token.isBare] at bare
    simp only [Reader.step, h, if_neg other] at step
    obtain ⟨value, whole⟩ := value?_bare bare step
    exact ⟨value, _, whole⟩
  | _ => cases a <;> simp_all [Token.isBare, Reader.step]

theorem complete_bare {value : Tree} {frames : List Frame} {b : Token} (bare : b.isBare = true) :
    (complete value frames).step b = none := by
  cases b with
  | null | bool | number => rcases frames with _ | ⟨_ | _, _⟩ <;> rfl
  | _ => simp [Token.isBare] at bare

-- In tokens that can be read, what follows a token is limited by it alone: a
-- closing bracket stands behind a value or behind the bracket that opens an empty
-- container, and no two bare words stand side by side.
def Follows (a b : Token) : Prop :=
  (b.isClosing = true → a.isOpening = true ∨ a.endsValue = true) ∧ ¬ (a.isBare = true ∧ b.isBare = true)

theorem follows_of_steps {r s after : Reader} {a b : Token} (first : r.step a = some s) (second : s.step b = some after) :
    Follows a b := by
  refine ⟨?_, ?_⟩
  · intro closing
    have separator (separates : a = .comma ∨ a = .colon) : False := by
      have refused := closing_refused closing (after_separator separates first)
      exact nomatch refused.symm.trans second
    cases a with
    | comma => exact (separator (.inl rfl)).elim
    | colon => exact (separator (.inr rfl)).elim
    | openObject | openArray => exact .inl rfl
    | _ => exact .inr rfl
  · rintro ⟨firstBare, secondBare⟩
    obtain ⟨value, frames, rfl⟩ := after_bare firstBare first
    exact nomatch (complete_bare secondBare).symm.trans second

def NoLoneComma (a b : Token) : Prop := a.isOpening = true → b ≠ .comma

theorem after_opening {r s : Reader} {a : Token} (opening : a.isOpening = true) (step : r.step a = some s) :
    s.expect = .item ∨ ∃ done, s.expect = .key done true := by
  have opened {frames : List Frame} (first : value? frames a = some s) : s.expect = .item ∨ ∃ done, s.expect = .key done true := by
    cases a with
    | openArray =>
      cases first
      exact .inl rfl
    | openObject =>
      cases first
      exact .inr ⟨[], rfl⟩
    | _ => cases opening
  cases h : r.expect with
  | value =>
    simp only [Reader.step, h] at step
    exact opened step
  | item =>
    have other : a ≠ .closeArray := by
      rintro rfl
      cases opening
    simp only [Reader.step, h, if_neg other] at step
    exact opened step
  | _ => cases a <;> simp_all [Token.isOpening, Reader.step]

theorem noLoneComma_of_steps {r s after : Reader} {a b : Token} (first : r.step a = some s) (second : s.step b = some after) :
    NoLoneComma a b := by
  rintro opening rfl
  rcases after_opening opening first with h | ⟨done, h⟩ <;> simp [Reader.step, h, value?] at second

theorem chain_of_reads {Next : Token → Token → Prop}
    (next : ∀ {r s after : Reader} {a b : Token}, r.step a = some s → s.step b = some after → Next a b) {tokens : List Token}
    {r after : Reader} (read : tokens.foldlM Reader.step r = some after) : tokens.IsChain Next := by
  induction tokens generalizing r with
  | nil => exact .nil
  | cons a rest ih =>
    rw [List.foldlM_cons] at read
    obtain ⟨s, first, others⟩ := Option.bind_eq_some_iff.mp read
    cases rest with
    | nil => exact .singleton a
    | cons b rest =>
      have tail := others
      rw [List.foldlM_cons] at tail
      obtain ⟨_, second, _⟩ := Option.bind_eq_some_iff.mp tail
      exact .cons_cons (next first second) (ih others)

end Reader

namespace Tree

theorem tokens_read (tree : Tree) : tree.tokens.foldlM Reader.step .start = some ⟨.nothing tree, []⟩ := by
  have read := Reader.reads_tokens tree [] []
  rwa [List.append_nil] at read

theorem ofTokens?_tokens (tree : Tree) : ofTokens? tree.tokens = some tree := by
  rw [ofTokens?, tokens_read]
  rfl

theorem tokens_chain (tree : Tree) : tree.tokens.IsChain Reader.Follows :=
  Reader.chain_of_reads Reader.follows_of_steps tree.tokens_read

theorem tokens_noLoneComma (tree : Tree) : tree.tokens.IsChain Reader.NoLoneComma :=
  Reader.chain_of_reads Reader.noLoneComma_of_steps tree.tokens_read

end Tree
end ImportHooks.Json
