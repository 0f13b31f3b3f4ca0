import ImportHooks.Proofs.Jsonc.Recovery
import ImportHooks.Proofs.Json.Reading

namespace ImportHooks.Jsonc
open Text Json

def Piece.isOpening : Piece → Bool
  | .single c => c = '\x7b' || c = '['
  | _ => false

def Piece.isOpenBlock : Piece → Bool
  | .marked .block _ false => true
  | _ => false

def Piece.NoLoneComma (before piece : Piece) : Prop := before.isOpening = true → piece ≠ .single ','

instance : DecidableRel Piece.NoLoneComma := fun before piece => inferInstanceAs (Decidable (before.isOpening = true → piece ≠ .single ','))

def loud (found : List Piece) : List Piece := found.filter (!·.isQuiet)

-- Every block comment is closed, and no comma comes next behind an opening bracket.
structure Tidy (text : Text) : Prop where
  closed : ∀ piece ∈ pieces text, piece.isOpenBlock = false
  noLoneComma : (loud (pieces text)).IsChain Piece.NoLoneComma

instance (text : Text) : Decidable (Tidy text) :=
  decidable_of_iff ((∀ piece ∈ pieces text, piece.isOpenBlock = false) ∧ (loud (pieces text)).IsChain Piece.NoLoneComma)
    ⟨fun ⟨closed, noLone⟩ => ⟨closed, noLone⟩, fun tidy => ⟨tidy.closed, tidy.noLoneComma⟩⟩

def piecesOf : Token → List Piece
  | .text raw => [.marked .literal raw true]
  | t => t.written.map .single

theorem piecesOf_bare {t : Token} (bare : t.isBare = true) : piecesOf t = t.written.map .single := by
  cases t with
  | text => cases bare
  | _ => rfl

theorem bare_plain {c : Char} (bare : isBare c = true) : c ≠ '"' ∧ c ≠ '/' := by
  constructor <;> rintro rfl <;> exact absurd bare (by decide)

theorem pieces_token {t : Token} (proper : t.Proper) (rest : Text) : pieces (t.written ++ rest) = piecesOf t ++ pieces rest := by
  cases bare : t.isBare with
  | true =>
    have all := (Token.bare_written bare proper).2.1
    rw [pieces_singles fun c member => bare_plain (all c member), piecesOf_bare bare]
  | false =>
    cases t with
    | null | bool | number => cases bare
    | text raw =>
      have fits : Piece.Fits rest (.marked .literal raw true) := paired_of_textBody proper
      exact pieces_written fits
    | _ => exact pieces_singles (by simp [Token.written]) rest

theorem pieces_filler {filler : Text} (first : Filler filler) (rest : Text) :
    ∃ piece, pieces (filler ++ rest) = piece :: pieces rest ∧ piece.isQuiet = true ∧ piece.isOpenBlock = false := by
  cases first with
  | @space c space =>
    have plain : c ≠ '"' ∧ c ≠ '/' := by constructor <;> rintro rfl <;> exact absurd space (by decide)
    exact ⟨.single c, pieces_singles (List.forall_mem_singleton.mpr plain) rest, space_blank space, rfl⟩
  | @line body noEnd =>
    have fits : Piece.Fits rest (.marked .line body true) := Kind.line_inside.mpr noEnd
    exact ⟨_, pieces_written fits, rfl, rfl⟩
  | @block body unclosed =>
    have fits : Piece.Fits rest (.marked .block body true) := Kind.block_inside.mpr unclosed
    exact ⟨_, pieces_written fits, rfl, rfl⟩

def Silent (found : List Piece) : Prop := ∀ piece ∈ found, piece.isQuiet = true ∧ piece.isOpenBlock = false

theorem pieces_gap {gap : Text} (closed : Gap gap) (rest : Text) : ∃ front, pieces (gap ++ rest) = front ++ pieces rest ∧ Silent front := by
  induction closed with
  | nil => exact ⟨[], rfl, nofun⟩
  | @cons filler gap first others ih =>
    obtain ⟨front, shown, silent⟩ := ih
    obtain ⟨piece, begins, quiet⟩ := pieces_filler first (gap ++ rest)
    rw [List.append_assoc, begins, shown]
    exact ⟨piece :: front, rfl, List.forall_mem_cons.mpr ⟨quiet, silent⟩⟩

theorem Silent.loud {found : List Piece} (silent : Silent found) : loud found = [] :=
  List.filter_eq_nil_iff.mpr fun piece member => by simp [(silent piece member).1]

theorem loud_append (front behind : List Piece) : loud (front ++ behind) = loud front ++ loud behind := List.filter_append front behind

theorem piecesOf_kind {t : Token} (proper : t.Proper) :
    ∀ piece ∈ piecesOf t, piece.isQuiet = false ∧ piece.isOpenBlock = false ∧ piece.isOpening = t.isOpening := by
  cases bare : t.isBare with
  | true =>
    have all := (Token.bare_written bare proper).2.1
    rw [piecesOf_bare bare]
    intro piece member
    obtain ⟨c, inside, rfl⟩ := List.mem_map.mp member
    refine ⟨bare_not_blank (all c inside), rfl, ?_⟩
    have shut : t.isOpening = false := by cases t <;> first | rfl | cases bare
    have other : ¬ (c = '\x7b' ∨ c = '[') := by rintro (rfl | rfl) <;> exact absurd (all _ inside) (by decide)
    rw [shut]
    simpa [Piece.isOpening] using other
  | false =>
    cases t with
    | null | bool | number => cases bare
    | text raw => exact List.forall_mem_singleton.mpr ⟨rfl, rfl, rfl⟩
    | _ => exact List.forall_mem_singleton.mpr ⟨by decide, rfl, rfl⟩

theorem piecesOf_first {t : Token} (proper : t.Proper) :
    ∃ first others, piecesOf t = first :: others ∧ (first = .single ',' ↔ t = .comma) := by
  cases bare : t.isBare with
  | true =>
    obtain ⟨shown, all, -⟩ := Token.bare_written bare proper
    obtain ⟨c, word, written⟩ := List.exists_cons_of_ne_nil shown
    rw [piecesOf_bare bare, written]
    refine ⟨.single c, word.map .single, rfl, ?_, ?_⟩
    · rintro comma
      cases comma
      exact absurd (all ',' (written ▸ List.mem_cons_self)) (by decide)
    · rintro rfl
      cases bare
  | false =>
    cases t with
    | null | bool | number => cases bare
    | text raw => exact ⟨_, _, rfl, by simp⟩
    | _ => exact ⟨_, _, rfl, by simp⟩

theorem loud_piecesOf {t : Token} (proper : t.Proper) : loud (piecesOf t) = piecesOf t :=
  List.filter_eq_self.mpr fun piece member => by simp [(piecesOf_kind proper piece member).1]

theorem pieces_laid {Last : Text → Prop} {us : List Token} {text : Text} (laid : Laid Gap Last us text)
    (proper : ∀ u ∈ us, u.Proper) :
    ∃ front last, Last last ∧ pieces text = front ++ pieces last ∧ loud front = us.flatMap piecesOf ∧
      (∀ piece ∈ front, piece.isOpenBlock = false) ∧ ∀ {Other : Text → Prop}, Other last → Laid Gap Other us text := by
  induction laid with
  | @done last ended => exact ⟨[], last, ended, rfl, rfl, nofun, fun other => .done other⟩
  | @token gap u us text before laid ih =>
    obtain ⟨front, last, ended, shown, spoken, closed, again⟩ := ih fun t member => proper t (List.mem_cons_of_mem u member)
    have first := proper u List.mem_cons_self
    obtain ⟨silence, begins, silent⟩ := pieces_gap before (u.written ++ text)
    refine ⟨silence ++ (piecesOf u ++ front), last, ended, ?_, ?_, ?_, fun other => .token before (again other)⟩
    · rw [begins, pieces_token first, shown, List.append_assoc, List.append_assoc]
    · rw [loud_append, loud_append, silent.loud, loud_piecesOf first, spoken, List.nil_append, List.flatMap_cons]
    · refine List.forall_mem_append.mpr ⟨fun piece member => (silent piece member).2, List.forall_mem_append.mpr ⟨?_, closed⟩⟩
      exact fun piece member => (piecesOf_kind first piece member).2.1

theorem pieces_unclosed {kind : Kind} {body : Text} (last : kind.Last body) :
    pieces (kind.opening ++ body) = [.marked kind body false] := by
  have fits : Piece.Fits [] (.marked kind body false) := ⟨last, rfl⟩
  have whole := pieces_written fits
  rwa [List.append_nil, Stripper.written_unclosed, pieces_nil] at whole

theorem LastGap.silent {last : Text} (ended : LastGap last) : Silent (pieces last) := by
  cases ended with
  | closed closed =>
    obtain ⟨front, shown, silent⟩ := pieces_gap closed []
    rw [List.append_nil, pieces_nil, List.append_nil] at shown
    exact shown ▸ silent
  | @line gap body closed noEnd =>
    obtain ⟨front, shown, silent⟩ := pieces_gap closed ('/' :: '/' :: body)
    have comment : pieces ('/' :: '/' :: body) = _ := pieces_unclosed (Kind.line_last.mpr noEnd)
    rw [shown, comment]
    exact List.forall_mem_append.mpr ⟨silent, List.forall_mem_singleton.mpr ⟨rfl, rfl⟩⟩

theorem LooseEnd.pieces {last : Text} (ended : LooseEnd last) :
    loud (pieces last) = [] ∧ (LastGap last ∨ ∃ piece ∈ pieces last, piece.isOpenBlock = true) := by
  cases ended with
  | last ended => exact ⟨ended.silent.loud, .inl ended⟩
  | @block gap body closed unclosed =>
    obtain ⟨front, shown, silent⟩ := pieces_gap closed ('/' :: '*' :: body)
    have comment : Jsonc.pieces ('/' :: '*' :: body) = _ := pieces_unclosed (show Kind.block.Last body from unclosed)
    rw [shown, comment]
    refine ⟨by rw [loud_append, silent.loud]; rfl, .inr ⟨_, List.mem_append_right front List.mem_cons_self, rfl⟩⟩

theorem chain_unopened {front found : List Piece} (shut : ∀ piece ∈ front, piece.isOpening = false) :
    (front ++ found).IsChain Piece.NoLoneComma ↔ found.IsChain Piece.NoLoneComma := by
  induction front with
  | nil => rfl
  | cons piece front ih =>
    obtain ⟨first, others⟩ := List.forall_mem_cons.mp shut
    rw [List.cons_append, List.isChain_cons, ih others]
    exact and_iff_right fun next _ opening => nomatch first.symm.trans opening

theorem chain_tokens {us : List Token} (proper : ∀ u ∈ us, u.Proper) :
    (us.flatMap piecesOf).IsChain Piece.NoLoneComma ↔ us.IsChain Reader.NoLoneComma := by
  induction us with
  | nil => simp
  | cons u us ih =>
    have others : ∀ v ∈ us, v.Proper := fun v member => proper v (List.mem_cons_of_mem u member)
    have kind := piecesOf_kind (proper u List.mem_cons_self)
    rw [List.flatMap_cons, List.isChain_cons]
    cases opening : u.isOpening with
    | false =>
      rw [chain_unopened fun piece member => (kind piece member).2.2.trans opening, ih others]
      exact (and_iff_right fun next _ opens => nomatch opening.symm.trans opens).symm
    | true =>
      obtain ⟨bracket, alone⟩ : ∃ bracket, piecesOf u = [bracket] := by cases u <;> first | exact ⟨_, rfl⟩ | cases opening
      have opens : bracket.isOpening = true := (kind bracket (alone ▸ List.mem_cons_self)).2.2.trans opening
      rw [alone, List.singleton_append, List.isChain_cons, ih others]
      refine and_congr_left fun _ => ?_
      cases us with
      | nil => simp
      | cons v us =>
        obtain ⟨first, more, shown, comma⟩ := piecesOf_first (others v List.mem_cons_self)
        simp [shown, Piece.NoLoneComma, Reader.NoLoneComma, opens, opening, comma]

theorem Loose.proper {ts us : List Token} (loose : Loose ts us) (proper : ∀ t ∈ ts, t.Proper) : ∀ u ∈ us, u.Proper := by
  induction loose with
  | nil => exact proper
  | keep rest ih =>
    obtain ⟨first, others⟩ := List.forall_mem_cons.mp proper
    exact List.forall_mem_cons.mpr ⟨first, ih others⟩
  | comma closing rest ih =>
    obtain ⟨first, others⟩ := List.forall_mem_cons.mp proper
    exact List.forall_mem_cons.mpr ⟨trivial, List.forall_mem_cons.mpr ⟨first, ih others⟩⟩

theorem Loose.trailed {t : Token} {ts us : List Token} (loose : Loose ts us) (chain : (t :: ts).IsChain Reader.Follows)
    (noLone : (t :: us).IsChain Reader.NoLoneComma) : Trailed (t :: ts) (t :: us) := by
  induction loose generalizing t with
  | nil => exact .keep .nil
  | keep rest ih => exact .keep (ih chain.tail noLone.tail)
  | comma closing rest ih =>
    rcases (List.isChain_cons_cons.mp chain).1.1 closing with opening | ends
    · exact absurd rfl ((List.isChain_cons_cons.mp noLone).1 opening)
    · exact .comma ends closing (ih chain.tail noLone.tail.tail)

theorem Trailed.noLoneComma {ts us : List Token} (trailed : Trailed ts us) (chain : ts.IsChain Reader.NoLoneComma) :
    us.IsChain Reader.NoLoneComma := by
  induction trailed with
  | nil => exact chain
  | keep rest ih =>
    obtain ⟨first, others⟩ := List.isChain_cons.mp chain
    exact List.isChain_cons.mpr ⟨by rwa [rest.loose.2], ih others⟩
  | @comma value bracket ts us ends closing rest ih =>
    have shut : Reader.NoLoneComma value .comma := by
      intro opening
      cases value <;> cases ends <;> cases opening
    have next : (Token.comma :: us).IsChain Reader.NoLoneComma := List.isChain_cons.mpr ⟨fun _ _ => nofun, ih chain.tail⟩
    exact .cons_cons shut next

-- A document in comments and trailing commas.
def Decorates (text : Text) (document : Tree) : Prop :=
  (∀ t ∈ document.tokens, t.Proper) ∧ ∃ us, Trailed document.tokens us ∧ Laid Gap LastGap us text

def LooselyDecorates (text : Text) (document : Tree) : Prop :=
  (∀ t ∈ document.tokens, t.Proper) ∧ ∃ us, Loose document.tokens us ∧ Laid Gap LooseEnd us text

theorem Decorates.loosely {text : Text} {document : Tree} (decorates : Decorates text document) : LooselyDecorates text document := by
  obtain ⟨proper, us, trailed, laid⟩ := decorates
  exact ⟨proper, us, trailed.loose.1, laid.mono .last⟩

theorem Decorates.tidy {text : Text} {document : Tree} (decorates : Decorates text document) : Tidy text := by
  obtain ⟨proper, us, trailed, laid⟩ := decorates
  have others := trailed.loose.1.proper proper
  obtain ⟨front, last, ended, shown, spoken, closed, -⟩ := pieces_laid laid others
  constructor
  · rw [shown]
    exact List.forall_mem_append.mpr ⟨closed, fun piece member => (ended.silent piece member).2⟩
  · rw [shown, loud_append, spoken, ended.silent.loud, List.append_nil, chain_tokens others]
    exact trailed.noLoneComma document.tokens_noLoneComma

theorem LooselyDecorates.strictly {text : Text} {document : Tree} (decorates : LooselyDecorates text document) (tidy : Tidy text) :
    Decorates text document := by
  obtain ⟨proper, us, loose, laid⟩ := decorates
  have others := loose.proper proper
  obtain ⟨front, last, ended, shown, spoken, -, again⟩ := pieces_laid laid others
  have noLone := tidy.noLoneComma
  rw [shown, loud_append, spoken, ended.pieces.1, List.append_nil, chain_tokens others] at noLone
  have chain := document.tokens_chain
  obtain ⟨t, rest, written, opens⟩ := document.tokens_head
  refine ⟨proper, us, ?_, again ?_⟩
  · rw [written] at loose chain ⊢
    cases loose with
    | keep loose => exact loose.trailed chain noLone
    | comma closing => exact nomatch opens.symm.trans closing
  · rcases ended.pieces.2 with last | ⟨piece, member, unclosed⟩
    · exact last
    · exact nomatch (tidy.closed piece (shown ▸ List.mem_append_right front member)).symm.trans unclosed

end ImportHooks.Jsonc

namespace ImportHooks.Tsconfig.Config
open Json Jsonc

theorem parse?_recover {text : Text} {config : Config} (accepted : parse? text = some config) :
    ∃ document, LooselyDecorates text document ∧ ofTree? document = some config := by
  obtain ⟨document, read, fields⟩ := Option.bind_eq_some_iff.mp accepted
  obtain ⟨laid, proper⟩ := Tree.read?_iff.mp read
  exact ⟨document, ⟨proper, recover laid proper⟩, fields⟩

theorem parse?_decorated {text : Text} {document : Tree} (decorates : LooselyDecorates text document) :
    parse? text = ofTree? document := by
  obtain ⟨proper, us, loose, laid⟩ := decorates
  exact parse?_loose proper loose laid

-- The accepted texts are the loosely decorated documents of configs. The tidy ones among
-- them are those in comments and trailing commas, so a comma in an empty container and a
-- block comment left open are all that is malformed and yet let through.
theorem accepted_as_decorated (text : Text) (config : Config) :
    (parse? text = some config ↔ ∃ document, LooselyDecorates text document ∧ ofTree? document = some config) ∧
    (parse? text = some config ∧ Tidy text ↔ ∃ document, Decorates text document ∧ ofTree? document = some config) := by
  refine ⟨⟨parse?_recover, ?_⟩, ?_, ?_⟩
  · rintro ⟨document, decorates, fields⟩
    rw [parse?_decorated decorates, fields]
  · rintro ⟨accepted, tidy⟩
    obtain ⟨document, decorates, fields⟩ := parse?_recover accepted
    exact ⟨document, decorates.strictly tidy, fields⟩
  · rintro ⟨document, decorates, fields⟩
    exact ⟨by rw [parse?_decorated decorates.loosely, fields], decorates.tidy⟩

-- The texts are `{,}` and `{} /*`.
theorem untidy_texts_accepted :
    (parse? ['\x7b', ',', '\x7d'] = some empty ∧ ∀ document, ¬ Decorates ['\x7b', ',', '\x7d'] document) ∧
    (parse? ['\x7b', '\x7d', ' ', '/', '*'] = some empty ∧
      ∀ document, ¬ Decorates ['\x7b', '\x7d', ' ', '/', '*'] document) := by
  have lone : ¬ Tidy ['\x7b', ',', '\x7d'] := by decide +kernel
  have unclosed : ¬ Tidy ['\x7b', '\x7d', ' ', '/', '*'] := by decide +kernel
  exact ⟨⟨by decide +kernel, fun _ decorates => lone decorates.tidy⟩,
    by decide +kernel, fun _ decorates => unclosed decorates.tidy⟩

example : parse? ['\x7b', ',', ',', '\x7d'] = none := by decide +kernel

end ImportHooks.Tsconfig.Config
