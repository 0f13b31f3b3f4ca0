import ImportHooks.Tsconfig.Config
import ImportHooks.Proofs.Jsonc.Strip

namespace ImportHooks.Jsonc
open Text Json

inductive Filler : Text → Prop where
  | space {c} (space : isSpace c = true) : Filler [c]
  | line {body} (noEnd : '\n' ∉ body) : Filler ('/' :: '/' :: (body ++ ['\n']))
  | block {body} (unclosed : ¬ ['*', '/'] <:+: body) : Filler ('/' :: '*' :: (body ++ ['*', '/']))

inductive Gap : Text → Prop where
  | nil : Gap []
  | cons {filler rest} (first : Filler filler) (others : Gap rest) : Gap (filler ++ rest)

inductive LastGap : Text → Prop where
  | closed {gap} (closed : Gap gap) : LastGap gap
  | line {gap body} (closed : Gap gap) (noEnd : '\n' ∉ body) : LastGap (gap ++ '/' :: '/' :: body)

-- A comma may be added behind a value that a closing bracket follows. In a document
-- that is the last entry of a container: only an empty one closes behind its opening.
inductive Trailed : List Token → List Token → Prop where
  | nil : Trailed [] []
  | keep {t ts us} (rest : Trailed ts us) : Trailed (t :: ts) (t :: us)
  | comma {value bracket ts us} (ends : value.endsValue = true) (closing : bracket.isClosing = true)
      (rest : Trailed (bracket :: ts) us) : Trailed (value :: bracket :: ts) (value :: .comma :: us)

-- More is read: the comma may stand before any closing bracket, that of an empty
-- container as well, and the end of the text may leave a block comment open.
inductive Loose : List Token → List Token → Prop where
  | nil : Loose [] []
  | keep {t ts us} (rest : Loose ts us) : Loose (t :: ts) (t :: us)
  | comma {bracket ts us} (closing : bracket.isClosing = true) (rest : Loose ts us) :
      Loose (bracket :: ts) (.comma :: bracket :: us)

inductive LooseEnd : Text → Prop where
  | last {gap} (last : LastGap gap) : LooseEnd gap
  | block {gap body} (closed : Gap gap) (unclosed : ¬ ['*', '/'] <:+: body) : LooseEnd (gap ++ '/' :: '*' :: body)

theorem Loose.before {bracket : Token} {ts us : List Token} (loose : Loose (bracket :: ts) us)
    (closing : bracket.isClosing = true) (bare : us.head? ≠ some .comma) : Loose (bracket :: ts) (.comma :: us) := by
  cases loose with
  | keep rest => exact .comma closing rest
  | comma => exact absurd rfl bare

theorem Trailed.loose {ts us : List Token} (trailed : Trailed ts us) : Loose ts us ∧ us.head? = ts.head? := by
  induction trailed with
  | nil => exact ⟨.nil, rfl⟩
  | keep rest ih => exact ⟨.keep ih.1, rfl⟩
  | @comma value bracket ts us ends closing rest ih =>
    have bare : us.head? ≠ some .comma := by
      rw [ih.2]
      rintro same
      cases same
      cases closing
    exact ⟨.keep (ih.1.before closing bare), rfl⟩

namespace Stripper

theorem feed_filler {filler : Text} (piece : Filler filler) {s : Stripper} (code : s.mode = .code) :
    ∃ c, isSpace c = true ∧ filler.foldl feed s = { s with written := c :: s.written } := by
  cases piece with
  | @space c space => exact ⟨c, space, feed_space space code⟩
  | line noEnd => exact ⟨'\n', rfl, feed_closedLine noEnd code⟩
  | block unclosed => exact ⟨' ', rfl, feed_closedBlock unclosed code⟩

theorem feed_gap {gap : Text} (closed : Gap gap) {s : Stripper} (code : s.mode = .code) :
    ∃ kept, Spaces kept ∧ gap.foldl feed s = { s with written := kept.reverse ++ s.written } := by
  induction closed generalizing s with
  | nil => exact ⟨[], nofun, rfl⟩
  | cons piece others ih =>
    obtain ⟨c, space, first⟩ := feed_filler piece code
    obtain ⟨kept, spaces, rest⟩ := ih (s := { s with written := c :: s.written }) code
    refine ⟨c :: kept, ?_, ?_⟩
    · intro d member
      rcases List.mem_cons.mp member with rfl | later
      · exact space
      · exact spaces d later
    · rw [List.foldl_append, first, rest]
      simp

theorem Stands.gap {s : Stripper} {base gap : Text} {ts : List Token} (stands : Stands s base ts) (closed : Gap gap) :
    ∃ kept, Spaces kept ∧ Stands (gap.foldl feed s) (base ++ kept) ts := by
  obtain ⟨kept, spaces, fed⟩ := feed_gap closed stands.code
  exact ⟨kept, spaces, fed ▸ stands.wrote kept⟩

theorem Stands.trailing {s : Stripper} {base : Text} {ts us : List Token} (stands : Stands s base (.comma :: us))
    (closing : closes ts = true) : Stands (Token.comma.written.foldl feed s) base ts := by
  rw [feed_comma stands.code]
  refine ⟨rfl, fun other => absurd closing (ne_true_of_eq_false other), fun _ => ?_⟩
  have held : Held ⟨.code, (s.output ++ [',']).reverse, some (utf8Length s.output)⟩ (s.output ++ []) := .comma s.output []
  have length : utf8Length s.output = utf8Length s.written := by simp [output]
  rw [length, List.append_nil, stands.shown rfl] at held
  simpa [← stands.shown rfl, output] using held

theorem finish_last {s : Stripper} {base last : Text} (stands : Stands s base []) (gap : LooseEnd last) :
    ∃ kept, Spaces kept ∧ (last.foldl feed s).finish = base ++ kept := by
  cases gap with
  | last ended =>
    cases ended with
    | closed closed =>
      obtain ⟨kept, spaces, after⟩ := stands.gap closed
      exact ⟨kept, spaces, after.finish⟩
    | @line gap body closed noEnd =>
      obtain ⟨kept, spaces, after⟩ := stands.gap closed
      refine ⟨kept, spaces, ?_⟩
      rw [List.foldl_append, List.foldl_cons, List.foldl_cons, feed_slashes after.code, feed_line noEnd rfl]
      exact after.shown rfl
  | @block gap body closed unclosed =>
    obtain ⟨kept, spaces, after⟩ := stands.gap closed
    obtain ⟨last, fed⟩ := feed_blockComment unclosed after.code
    refine ⟨kept ++ [' '], spaces.append (List.forall_mem_singleton.mpr rfl), ?_⟩
    rw [List.foldl_append, fed, ← List.append_assoc, ← after.shown rfl]
    exact List.reverse_cons

theorem Loose.closes_eq_false {ts us : List Token} (loose : Loose ts us) (other : closes ts = false) : closes us = false := by
  cases loose with
  | comma => rfl
  | _ => exact other

theorem finish_loose {ts us : List Token} (loose : Loose ts us) {s : Stripper} {base text : Text}
    (stands : Stands s base us) (laid : Laid Gap LooseEnd us text) (proper : ∀ t ∈ ts, t.Proper)
    (chain : ts.IsChain Reader.Follows) :
    ∃ bare, Laid Spaces Spaces ts bare ∧ (text.foldl feed s).finish = base ++ bare := by
  induction loose generalizing s base text with
  | nil =>
    cases laid with
    | done last =>
      obtain ⟨kept, spaces, finished⟩ := finish_last stands last
      exact ⟨kept, .done spaces, finished⟩
  | @keep t ts us loose ih =>
    cases laid with
    | @token gap _ _ rest before laid =>
      obtain ⟨kept, spaces, between⟩ := stands.gap before
      have after := between.next (proper t List.mem_cons_self) fun comma =>
        Loose.closes_eq_false loose (closes_after_comma chain comma)
      obtain ⟨bare, laidBare, finished⟩ :=
        ih after laid (fun u member => proper u (List.mem_cons_of_mem t member)) chain.tail
      refine ⟨kept ++ (t.written ++ bare), .token spaces laidBare, ?_⟩
      rw [List.foldl_append, List.foldl_append, finished]
      simp only [List.append_assoc]
  | @comma bracket ts us closing loose ih =>
    cases laid with
    | @token gap _ _ rest before laid =>
      cases laid with
      | @token spare _ _ rest beforeBracket laid =>
        have noComma : bracket ≠ .comma := by
          rintro rfl
          cases closing
        obtain ⟨kept, spaces, between⟩ := stands.gap before
        have bracketNext : closes (bracket :: us) = true := closing
        obtain ⟨more, moreSpaces, held⟩ := (between.trailing bracketNext).gap beforeBracket
        have after := held.token (proper bracket List.mem_cons_self) noComma us
        obtain ⟨bare, laidBare, finished⟩ :=
          ih after laid (fun u member => proper u (List.mem_cons_of_mem bracket member)) chain.tail
        refine ⟨(kept ++ more) ++ (bracket.written ++ bare), .token (spaces.append moreSpaces) laidBare, ?_⟩
        simp only [List.foldl_append, finished, List.append_assoc]

end Stripper

theorem strip_loose {ts us : List Token} {text : Text} (loose : Loose ts us) (laid : Laid Gap LooseEnd us text)
    (proper : ∀ t ∈ ts, t.Proper) (chain : ts.IsChain Reader.Follows) : Laid Spaces Spaces ts (strip text) := by
  obtain ⟨bare, laidBare, finished⟩ := Stripper.finish_loose loose (.start us) laid proper chain
  rwa [strip, run, finished]

theorem Trailed.none (ts : List Token) : Trailed ts ts := by
  induction ts with
  | nil => exact .nil
  | cons t ts ih => exact .keep ih

theorem laid_bare (ts : List Token) : Laid Gap LastGap ts (ts.flatMap Token.written) := by
  induction ts with
  | nil => exact .done (.closed .nil)
  | cons t ts ih => exact .token .nil ih

end ImportHooks.Jsonc

namespace ImportHooks.Tsconfig.Config
open Json Jsonc

theorem parse?_loose {document : Tree} {us : List Token} {text : Text} (proper : ∀ t ∈ document.tokens, t.Proper)
    (loose : Loose document.tokens us) (laid : Laid Gap LooseEnd us text) : parse? text = ofTree? document := by
  have stripped := strip_loose loose laid proper document.tokens_chain
  rw [parse?, Tree.read?, tokens?_laid stripped proper document.tokens_chain, Option.bind_some,
    Tree.ofTokens?_tokens, Option.bind_some]

theorem parse?_laid {document : Tree} {us : List Token} {text : Text} (proper : ∀ t ∈ document.tokens, t.Proper)
    (trailed : Trailed document.tokens us) (laid : Laid Gap LastGap us text) : parse? text = ofTree? document :=
  parse?_loose proper trailed.loose.1 (laid.mono .last)

theorem decorated_reads_as_bare (document : Tree) (proper : ∀ t ∈ document.tokens, t.Proper) (us : List Token)
    (trailed : Trailed document.tokens us) (text : Text) (laid : Laid Gap LastGap us text) :
    parse? text = parse? (document.tokens.flatMap Token.written) ∧ parse? text = ofTree? document := by
  have decorated := parse?_laid proper trailed laid
  have bare := parse?_laid proper (.none document.tokens) (laid_bare document.tokens)
  exact ⟨decorated.trans bare.symm, decorated⟩

-- The text is `{"extends"/**/:["a",/*,]*/],}//"`.
theorem commented_list_reads_as_bare :
    parse? ['\x7b', '"', 'e', 'x', 't', 'e', 'n', 'd', 's', '"', '/', '*', '*', '/', ':', '[', '"', 'a', '"', ',', '/', '*', ',',
        ']', '*', '/', ']', ',', '\x7d', '/', '/', '"'] =
        parse? ['\x7b', '"', 'e', 'x', 't', 'e', 'n', 'd', 's', '"', ':', '[', '"', 'a', '"', ']', '\x7d'] ∧
      parse? ['\x7b', '"', 'e', 'x', 't', 'e', 'n', 'd', 's', '"', '/', '*', '*', '/', ':', '[', '"', 'a', '"', ',', '/', '*', ',',
        ']', '*', '/', ']', ',', '\x7d', '/', '/', '"'] =
        some ⟨some (.many [['a']]), none⟩ := by
  let document := Tree.object [(['e', 'x', 't', 'e', 'n', 'd', 's'], .array [.text ['a']])]
  have key : TextBody ['e', 'x', 't', 'e', 'n', 'd', 's'] := .unescaped (by decide)
  have item : TextBody ['a'] := .unescaped (by decide)
  have proper : ∀ t ∈ document.tokens, t.Proper := by
    simp [document, Tree.tokens, Tree.itemTokens, Tree.moreItems, Tree.memberTokens, Tree.moreMembers, Token.Proper, key, item]
  have trailed : Trailed document.tokens
      [.openObject, .text ['e', 'x', 't', 'e', 'n', 'd', 's'], .colon, .openArray, .text ['a'], .comma, .closeArray, .comma,
        .closeObject] :=
    .keep (.keep (.keep (.keep (.comma rfl rfl (.comma rfl rfl (.keep .nil))))))
  have empty : Gap ['/', '*', '*', '/'] := .cons (.block (show ¬ ['*', '/'] <:+: [] by decide)) .nil
  have tricky : Gap ['/', '*', ',', ']', '*', '/'] := .cons (.block (show ¬ ['*', '/'] <:+: [',', ']'] by decide)) .nil
  have ended : LastGap ['/', '/', '"'] := .line .nil (show '\n' ∉ ['"'] by decide)
  have reads := decorated_reads_as_bare document proper _ trailed _
    (.token .nil (.token .nil (.token empty (.token .nil (.token .nil (.token .nil (.token tricky (.token .nil (.token .nil
      (.done ended))))))))))
  exact ⟨reads.1, reads.2.trans (by decide +kernel)⟩

end ImportHooks.Tsconfig.Config
