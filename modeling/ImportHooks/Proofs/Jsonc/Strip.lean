import ImportHooks.Proofs.Jsonc.Pieces
import ImportHooks.Proofs.Json.Layout

namespace ImportHooks.Jsonc
open Text Json

theorem bare_not_blank {c : Char} (bare : isBare c = true) : isBlank c = false := by
  cases blank : isBlank c with
  | false => rfl
  | true =>
    have none : ∀ n ∈ blanks, isBare (Char.ofNat n) = false := by decide
    have refused := none c.toNat (by simpa [isBlank] using blank)
    rw [Char.ofNat_toNat] at refused
    exact nomatch refused.symm.trans bare

theorem hex_plain {c : Char} (hex : isHex c = true) : c ≠ '"' ∧ c ≠ '\\' := by
  constructor <;> rintro rfl <;> exact absurd hex (by decide)

theorem paired_of_textBody {raw : Text} (body : TextBody raw) : Paired false raw := by
  induction body with
  | nil => exact .nil
  | plain quote slash shown body ih => exact .plain quote slash ih
  | escape known body ih => exact .pair ih
  | unicode first second third fourth body ih =>
    have digit {c : Char} {rest : Text} (hex : isHex c = true) (paired : Paired false rest) : Paired false (c :: rest) :=
      .plain (hex_plain hex).1 (hex_plain hex).2 paired
    exact .pair (digit first (digit second (digit third (digit fourth ih))))

namespace Stripper

-- The character that starts at a byte offset, and the text without it. None starts
-- inside another character or at the end.
def removeAt? : Nat → Text → Option (Char × Text)
  | _, [] => none
  | 0, c :: rest => some (c, rest)
  | n + 1, c :: rest =>
    if c.utf8Size ≤ n + 1 then (removeAt? (n + 1 - c.utf8Size) rest).map fun (d, others) => (d, c :: others) else none

theorem removeAt?_front (left : Text) (c : Char) (right : Text) :
    removeAt? (utf8Length left) (left ++ c :: right) = some (c, left ++ right) := by
  induction left with
  | nil => rfl
  | cons d left ih =>
    have size := d.utf8Size_pos
    obtain ⟨n, length⟩ : ∃ n, utf8Length (d :: left) = n + 1 :=
      Nat.exists_eq_succ_of_ne_zero (by simp only [utf8Length_cons]; omega)
    have fits : d.utf8Size ≤ n + 1 := by
      rw [← length, utf8Length_cons]
      omega
    have others : n + 1 - d.utf8Size = utf8Length left := by
      rw [← length, utf8Length_cons]
      omega
    simp only [List.cons_append]
    rw [length, removeAt?, if_pos fits, others, ih]
    rfl

theorem removeAt?_eq_some {offset : Nat} {text rest : Text} {c : Char} :
    removeAt? offset text = some (c, rest) ↔
      ∃ left right, text = left ++ c :: right ∧ utf8Length left = offset ∧ rest = left ++ right := by
  constructor
  · intro removed
    fun_induction removeAt? offset text generalizing rest with
    | case1 => cases removed
    | case2 d others =>
      cases removed
      exact ⟨[], others, rfl, rfl, rfl⟩
    | case3 n d others fits ih =>
      obtain ⟨⟨found, behind⟩, inside, same⟩ := Option.map_eq_some_iff.mp removed
      cases same
      obtain ⟨left, right, parted, begins, kept⟩ := ih inside
      refine ⟨d :: left, right, by rw [parted, List.cons_append], ?_, by rw [kept, List.cons_append]⟩
      rw [utf8Length_cons, begins]
      omega
    | case4 => cases removed
  · intro ⟨left, right, parted, begins, kept⟩
    rw [parted, ← begins, kept]
    exact removeAt?_front left c right

example : removeAt? 2 ['[', 'é', ','] = none ∧ removeAt? 3 ['[', 'é', ','] = some (',', ['[', 'é']) := by decide

theorem eraseAt_removed {offset : Nat} {text rest : Text} {c : Char} (removed : removeAt? offset text = some (c, rest)) :
    eraseAt offset text = rest := by
  fun_induction removeAt? offset text generalizing rest with
  | case1 => cases removed
  | case2 =>
    cases removed
    rfl
  | case3 n d others fits ih =>
    obtain ⟨⟨found, behind⟩, inside, same⟩ := Option.map_eq_some_iff.mp removed
    cases same
    rw [eraseAt, if_pos fits, ih inside]
  | case4 => cases removed

theorem eraseAt_comma (left right : Text) : eraseAt (utf8Length left) (left ++ ',' :: right) = left ++ right :=
  eraseAt_removed (removeAt?_front left ',' right)

-- The output that counts when a bracket closes next: a comma that only gaps
-- follow is left out of it.
inductive Held : Stripper → Text → Prop where
  | clear {mode written} : Held ⟨mode, written, none⟩ written.reverse
  | comma {mode} (left right : Text) :
      Held ⟨mode, (left ++ ',' :: right).reverse, some (utf8Length left)⟩ (left ++ right)

theorem Held.gap {s : Stripper} {base : Text} (held : Held s base) (kept : Text) :
    Held { s with written := kept.reverse ++ s.written } (base ++ kept) := by
  cases held with
  | @clear mode written =>
    have clear : Held ⟨mode, kept.reverse ++ written, none⟩ (kept.reverse ++ written).reverse := .clear
    rwa [List.reverse_append, List.reverse_reverse] at clear
  | @comma mode left right =>
    have comma : Held ⟨mode, (left ++ ',' :: (right ++ kept)).reverse, some (utf8Length left)⟩ (left ++ (right ++ kept)) :=
      .comma left (right ++ kept)
    rw [← List.append_assoc, ← List.cons_append, ← List.append_assoc, List.reverse_append] at comma
    exact comma

theorem Held.close {s : Stripper} {base : Text} (held : Held s base) (c : Char) :
    s.close c = ⟨.code, c :: base.reverse, none⟩ := by
  cases held with
  | clear => simp [Stripper.close, write]
  | comma left right => simp only [Stripper.close, output, List.reverse_reverse, eraseAt_comma]

theorem code_bare {c : Char} (bare : isBare c = true) (s : Stripper) : s.code c = s.write .code c := by
  have other {d : Char} (special : isBare d = false) : c ≠ d := by
    rintro rfl
    exact nomatch special.symm.trans bare
  have closing : ¬ (c = '\x7d' ∨ c = ']') := not_or.mpr ⟨other (by decide), other (by decide)⟩
  rw [code, if_neg (other (by decide)), if_neg (other (by decide)), if_neg closing, bare_not_blank bare,
    if_neg (other (by decide))]
  rfl

theorem feed_word {raw : Text} (bare : ∀ c ∈ raw, isBare c = true) (written : Text) :
    raw.foldl feed ⟨.code, written, none⟩ = ⟨.code, raw.reverse ++ written, none⟩ := by
  induction raw generalizing written with
  | nil => rfl
  | cons c raw ih =>
    have first : feed ⟨.code, written, none⟩ c = ⟨.code, c :: written, none⟩ := code_bare (bare c List.mem_cons_self) _
    rw [List.foldl_cons, first, ih fun d member => bare d (List.mem_cons_of_mem c member)]
    simp

theorem feed_quoted {c : Char} (quote : c ≠ '"') (slash : c ≠ '\\') (written : Text) :
    feed ⟨.quoted, written, none⟩ c = ⟨.quoted, c :: written, none⟩ := by
  simp [feed, write, quote, slash]

theorem feed_escape (c : Char) (written : Text) :
    feed (feed ⟨.quoted, written, none⟩ '\\') c = ⟨.quoted, c :: '\\' :: written, none⟩ := rfl

theorem feed_paired {alone : Bool} {body : Text} (paired : Paired alone body) (written : Text) :
    body.foldl feed ⟨.quoted, written, none⟩ = ⟨if alone then .escaped else .quoted, body.reverse ++ written, none⟩ := by
  induction paired generalizing written with
  | nil => rfl
  | slash => rfl
  | plain quote slash others ih =>
    rw [List.foldl_cons, feed_quoted quote slash, ih]
    simp
  | pair others ih =>
    rw [List.foldl_cons, List.foldl_cons, feed_escape, ih]
    simp

theorem feed_body {raw : Text} (body : TextBody raw) (written : Text) :
    raw.foldl feed ⟨.quoted, written, none⟩ = ⟨.quoted, raw.reverse ++ written, none⟩ := feed_paired (paired_of_textBody body) written

theorem feed_token {t : Token} (proper : t.Proper) (comma : t ≠ .comma) (closing : t.isClosing = false)
    {s : Stripper} (code : s.mode = .code) :
    t.written.foldl feed s = ⟨.code, t.written.reverse ++ s.written, none⟩ := by
  obtain ⟨mode, written, pending⟩ := s
  cases code
  cases bare : t.isBare with
  | true =>
    obtain ⟨shown, all, _⟩ := Token.bare_written bare proper
    obtain ⟨c, raw, eq⟩ := List.exists_cons_of_ne_nil shown
    rw [eq] at all ⊢
    have first : feed ⟨.code, written, pending⟩ c = ⟨.code, c :: written, none⟩ := code_bare (all c List.mem_cons_self) _
    rw [List.foldl_cons, first, feed_word fun d member => all d (List.mem_cons_of_mem c member)]
    simp
  | false =>
    cases t with
    | null | bool | number => simp [Token.isBare] at bare
    | closeObject | closeArray => simp [Token.isClosing] at closing
    | comma => exact absurd rfl comma
    | text raw =>
      have opened : feed ⟨.code, written, pending⟩ '"' = ⟨.quoted, '"' :: written, none⟩ := rfl
      rw [Token.written, List.cons_append, List.foldl_cons, opened, List.foldl_append, feed_body proper]
      simp [feed, write]
    | _ => rfl

theorem feed_closing {t : Token} (closing : t.isClosing = true) {s : Stripper} {base : Text} (code : s.mode = .code)
    (held : Held s base) : t.written.foldl feed s = ⟨.code, t.written.reverse ++ base.reverse, none⟩ := by
  obtain ⟨mode, written, pending⟩ := s
  cases code
  cases t with
  | closeObject => exact held.close '\x7d'
  | closeArray => exact held.close ']'
  | _ => simp [Token.isClosing] at closing

theorem feed_space {c : Char} (space : isSpace c = true) {s : Stripper} (code : s.mode = .code) :
    s.feed c = { s with written := c :: s.written } := by
  obtain ⟨mode, written, pending⟩ := s
  cases code
  simp only [isSpace, Bool.or_eq_true, decide_eq_true_eq] at space
  rcases space with ((rfl | rfl) | rfl) | rfl <;> rfl

theorem feed_spaces {gap : Text} (spaces : Spaces gap) {s : Stripper} (code : s.mode = .code) :
    gap.foldl feed s = { s with written := gap.reverse ++ s.written } := by
  induction gap generalizing s with
  | nil => rfl
  | cons c gap ih =>
    have later := ih (fun d member => spaces d (List.mem_cons_of_mem c member)) (s := { s with written := c :: s.written }) code
    rw [List.foldl_cons, feed_space (spaces c List.mem_cons_self) code, later]
    simp

theorem feed_line {body : Text} (noEnd : '\n' ∉ body) {s : Stripper} (line : s.mode = .line) : body.foldl feed s = s := by
  induction body with
  | nil => rfl
  | cons c body ih =>
    have other : c ≠ '\n' := (List.ne_of_not_mem_cons noEnd).symm
    have kept : s.feed c = s := by simp [feed, line, other]
    rw [List.foldl_cons, kept]
    exact ih (List.not_mem_of_not_mem_cons noEnd)

theorem feed_block {body : Text} {before : Char} (unclosed : ¬ ['*', '/'] <:+: before :: body) {s : Stripper}
    (block : s.mode = .block before) : ∃ last, body.foldl feed s = { s with mode := .block last } := by
  induction body generalizing before s with
  | nil => exact ⟨before, by rw [← block]; rfl⟩
  | cons c body ih =>
    have inside : ¬ (before = '*' ∧ c = '/') := by
      rintro ⟨rfl, rfl⟩
      exact unclosed ⟨[], body, rfl⟩
    have moved : s.feed c = { s with mode := .block c } := by simp only [feed, block, if_neg inside]
    have later : ¬ ['*', '/'] <:+: c :: body := fun found => unclosed (List.infix_cons found)
    rw [List.foldl_cons, moved]
    exact ih later rfl

theorem feed_slashes {s : Stripper} (code : s.mode = .code) : (s.feed '/').feed '/' = { s with mode := .line } := by
  obtain ⟨mode, written, pending⟩ := s
  cases code
  rfl

theorem feed_lineComment {body : Text} (noEnd : '\n' ∉ body) {s : Stripper} (code : s.mode = .code) :
    ('/' :: '/' :: body).foldl feed s = { s with mode := .line } := by
  rw [List.foldl_cons, List.foldl_cons, feed_slashes code, feed_line noEnd rfl]

theorem feed_blockComment {body : Text} (unclosed : ¬ ['*', '/'] <:+: body) {s : Stripper} (code : s.mode = .code) :
    ∃ last, ('/' :: '*' :: body).foldl feed s = { s with mode := .block last } := by
  obtain ⟨mode, written, pending⟩ := s
  cases code
  have opened : feed (feed ⟨.code, written, pending⟩ '/') '*' = ⟨.block '\x00', written, pending⟩ := rfl
  have still : ¬ ['*', '/'] <:+: '\x00' :: body := by
    rw [List.infix_cons_iff]
    rintro (begins | inside)
    · exact absurd (List.cons_prefix_cons.mp begins).1 (by decide)
    · exact unclosed inside
  rw [List.foldl_cons, List.foldl_cons, opened]
  exact feed_block still rfl

theorem feed_closedLine {body : Text} (noEnd : '\n' ∉ body) {s : Stripper} (code : s.mode = .code) :
    ('/' :: '/' :: (body ++ ['\n'])).foldl feed s = { s with written := '\n' :: s.written } := by
  rw [← List.cons_append, ← List.cons_append, List.foldl_append, feed_lineComment noEnd code]
  simp [feed, writeGap, code]

theorem feed_closedBlock {body : Text} (unclosed : ¬ ['*', '/'] <:+: body) {s : Stripper} (code : s.mode = .code) :
    ('/' :: '*' :: (body ++ ['*', '/'])).foldl feed s = { s with written := ' ' :: s.written } := by
  obtain ⟨last, fed⟩ := feed_blockComment unclosed code
  rw [← List.cons_append, ← List.cons_append, List.foldl_append, fed]
  simp [feed, writeGap, code]

def closes : List Token → Bool
  | t :: _ => t.isClosing
  | [] => false

-- Between tokens, with `base` as the output that counts for the tokens to come: a
-- comma that is held back counts unless a bracket closes next.
structure Stands (s : Stripper) (base : Text) (ts : List Token) : Prop where
  code : s.mode = .code
  shown : closes ts = false → s.output = base
  held : closes ts = true → Held s base

theorem Stands.start (ts : List Token) : Stands .start [] ts := ⟨rfl, fun _ => rfl, fun _ => .clear⟩

theorem Stands.wrote {s : Stripper} {base : Text} {ts : List Token} (stands : Stands s base ts) (kept : Text) :
    Stands { s with written := kept.reverse ++ s.written } (base ++ kept) ts := by
  refine ⟨stands.code, ?_, ?_⟩
  · intro other
    rw [← stands.shown other]
    simp [output]
  · intro closing
    exact (stands.held closing).gap kept

theorem Stands.spaces {s : Stripper} {base gap : Text} {ts : List Token} (stands : Stands s base ts) (spaces : Spaces gap) :
    Stands (gap.foldl feed s) (base ++ gap) ts := feed_spaces spaces stands.code ▸ stands.wrote gap

theorem Stands.finish {s : Stripper} {base : Text} (stands : Stands s base []) : s.finish = base := by
  rw [Stripper.finish, stands.code]
  exact stands.shown rfl

theorem Stands.token {s : Stripper} {base : Text} {t : Token} {ts : List Token} (stands : Stands s base (t :: ts))
    (proper : t.Proper) (comma : t ≠ .comma) (next : List Token) :
    Stands (t.written.foldl feed s) (base ++ t.written) next := by
  have fed : t.written.foldl feed s = ⟨.code, (base ++ t.written).reverse, none⟩ := by
    rw [List.reverse_append]
    cases closing : t.isClosing with
    | true => exact feed_closing closing stands.code (stands.held closing)
    | false => rw [feed_token proper comma closing stands.code, ← stands.shown closing, output, List.reverse_reverse]
  rw [fed]
  refine ⟨rfl, fun _ => List.reverse_reverse _, fun _ => ?_⟩
  have clear : Held ⟨.code, (base ++ t.written).reverse, none⟩ (base ++ t.written).reverse.reverse := .clear
  rwa [List.reverse_reverse] at clear

theorem feed_comma {s : Stripper} (code : s.mode = .code) :
    Token.comma.written.foldl feed s = ⟨.code, ',' :: s.written, some (utf8Length s.written)⟩ := by
  obtain ⟨mode, written, pending⟩ := s
  cases code
  rfl

theorem Stands.comma {s : Stripper} {base : Text} {ts : List Token} (stands : Stands s base (.comma :: ts))
    (other : closes ts = false) : Stands (Token.comma.written.foldl feed s) (base ++ Token.comma.written) ts := by
  rw [feed_comma stands.code, ← stands.shown rfl]
  exact ⟨rfl, fun _ => List.reverse_cons, fun closing => absurd closing (ne_true_of_eq_false other)⟩

theorem closes_after_comma {t : Token} {ts : List Token} (chain : (t :: ts).IsChain Reader.Follows) (comma : t = .comma) :
    closes ts = false := by
  subst comma
  cases chain with
  | singleton => rfl
  | cons_cons follows _ =>
    refine Bool.eq_false_iff.mpr fun closing => ?_
    rcases follows.1 closing with opening | ending
    · exact absurd opening (by decide)
    · exact absurd ending (by decide)

theorem Stands.next {s : Stripper} {base : Text} {t : Token} {ts : List Token} (stands : Stands s base (t :: ts))
    (proper : t.Proper) (other : t = .comma → closes ts = false) : Stands (t.written.foldl feed s) (base ++ t.written) ts := by
  by_cases comma : t = .comma
  · cases comma
    exact stands.comma (other rfl)
  · exact stands.token proper comma ts

end Stripper
end ImportHooks.Jsonc
