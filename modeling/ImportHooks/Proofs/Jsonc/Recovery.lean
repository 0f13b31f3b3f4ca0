import ImportHooks.Proofs.Jsonc.Recut
import ImportHooks.Proofs.Jsonc.Decoration

namespace ImportHooks.Json
open Text

theorem space_blank {c : Char} (space : isSpace c = true) : isBlank c = true := by
  simp only [isSpace, Bool.or_eq_true, decide_eq_true_eq] at space
  rcases space with ((rfl | rfl) | rfl) | rfl <;> rfl

theorem Token.written_cons {t : Token} (proper : t.Proper) :
    ∃ c word, t.written = c :: word ∧ isBlank c = false ∧ (c ≠ '"' → ∀ d ∈ word, Json.isBare d = true) := by
  cases bare : t.isBare with
  | true =>
    obtain ⟨shown, all, -⟩ := Token.bare_written bare proper
    obtain ⟨c, word, written⟩ := List.exists_cons_of_ne_nil shown
    rw [written] at all
    exact ⟨c, word, written, Jsonc.bare_not_blank (all c List.mem_cons_self),
      fun _ d member => all d (List.mem_cons_of_mem c member)⟩
  | false =>
    cases t with
    | null | bool | number => cases bare
    | text raw => exact ⟨'"', raw ++ ['"'], rfl, by decide, fun quote => absurd rfl quote⟩
    | _ => exact ⟨_, [], rfl, by decide, fun _ => nofun⟩

theorem Token.not_bare_of_written {t : Token} {c : Char} {word : Text} (proper : t.Proper) (written : t.written = c :: word)
    (special : Json.isBare c = false) : t.isBare = false := by
  cases bare : t.isBare with
  | false => rfl
  | true =>
    have all := (Token.bare_written bare proper).2.1
    rw [written] at all
    exact nomatch special.symm.trans (all c List.mem_cons_self)

theorem Token.isClosing_of_written {t : Token} {c : Char} {word : Text} (proper : t.Proper) (written : t.written = c :: word)
    (closing : c = '\x7d' ∨ c = ']') : t.isClosing = true := by
  have marked := Token.not_bare_of_written proper written (by rcases closing with rfl | rfl <;> decide)
  cases t with
  | null | bool | number => cases marked
  | closeObject | closeArray => rfl
  | _ =>
    cases written
    rcases closing with same | same <;> exact absurd same (by decide)

section
variable {ts : List Token} {c : Char} {rest : Text}

theorem Laid.of_nil (laid : Laid Spaces Spaces ts []) (proper : ∀ t ∈ ts, t.Proper) : ts = [] := by
  generalize whole : ([] : Text) = text at laid
  cases laid with
  | done => rfl
  | @token gap t ts text before laid =>
    obtain ⟨c, word, written, -⟩ := Token.written_cons (proper t List.mem_cons_self)
    simp [written] at whole

theorem Laid.first (laid : Laid Spaces Spaces ts (c :: rest)) (proper : ∀ t ∈ ts, t.Proper) :
    (isSpace c = true ∧ Laid Spaces Spaces ts rest) ∨
      ∃ t others word behind, ts = t :: others ∧ t.written = c :: word ∧ rest = word ++ behind ∧
        Laid Spaces Spaces others behind := by
  generalize whole : c :: rest = text at laid
  cases laid with
  | done gap =>
    subst whole
    exact .inl ⟨gap c List.mem_cons_self, .done fun d member => gap d (List.mem_cons_of_mem c member)⟩
  | @token gap t others behind before laid =>
    cases gap with
    | nil =>
      obtain ⟨d, word, written, -⟩ := Token.written_cons (proper t List.mem_cons_self)
      rw [written] at whole
      cases whole
      exact .inr ⟨t, others, word, behind, rfl, written, rfl, laid⟩
    | cons d gap =>
      cases whole
      exact .inl ⟨before c List.mem_cons_self, .token (fun d member => before d (List.mem_cons_of_mem c member)) laid⟩

theorem Laid.blank (laid : Laid Spaces Spaces ts (c :: rest)) (proper : ∀ t ∈ ts, t.Proper) (blank : isBlank c = true) :
    isSpace c = true ∧ Laid Spaces Spaces ts rest := by
  rcases laid.first proper with gap | ⟨t, others, word, behind, rfl, written, -⟩
  · exact gap
  · obtain ⟨d, more, shown, solid, -⟩ := Token.written_cons (proper t List.mem_cons_self)
    cases written.symm.trans shown
    exact nomatch solid.symm.trans blank

theorem Laid.bracket {gap : Text} (laid : Laid Spaces Spaces ts (gap ++ c :: rest)) (proper : ∀ t ∈ ts, t.Proper)
    (blank : ∀ d ∈ gap, isBlank d = true) (closing : c = '\x7d' ∨ c = ']') :
    ∃ t others, ts = t :: others ∧ t.isClosing = true := by
  induction gap with
  | nil =>
    rcases laid.first proper with ⟨space, -⟩ | ⟨t, others, word, behind, rfl, written, -⟩
    · rcases closing with rfl | rfl <;> exact absurd space (by decide)
    · exact ⟨t, others, rfl, Token.isClosing_of_written (proper t List.mem_cons_self) written closing⟩
  | cons d gap ih =>
    exact ih (laid.blank proper (blank d List.mem_cons_self)).2 fun e member => blank e (List.mem_cons_of_mem d member)

theorem Laid.quoted (laid : Laid Spaces Spaces ts ('"' :: rest)) (proper : ∀ t ∈ ts, t.Proper) :
    ∃ raw others behind, ts = .text raw :: others ∧ Jsonc.toQuote rest = (raw, some behind) ∧
      Laid Spaces Spaces others behind := by
  rcases laid.first proper with ⟨space, -⟩ | ⟨t, others, word, behind, rfl, written, rfl, later⟩
  · exact absurd space (by decide)
  · have first := proper t List.mem_cons_self
    have marked := Token.not_bare_of_written first written (by decide)
    cases t with
    | null | bool | number => cases marked
    | text raw =>
      cases written
      refine ⟨raw, others, behind, rfl, ?_, later⟩
      rw [show List.append raw ['"'] ++ behind = raw ++ (['"'] ++ behind) from List.append_assoc raw ['"'] behind]
      exact (Jsonc.Parted.closed raw behind (Jsonc.paired_of_textBody first)).toQuote
    | _ => cases written

end
end ImportHooks.Json

namespace ImportHooks.Jsonc
open Text Json

theorem closesNext_single {c : Char} (solid : isBlank c = false) (behind : List Piece) :
    closesNext (.single c :: behind) = true ↔ c = '\x7d' ∨ c = ']' := by
  rw [closesNext_loud (show Piece.isQuiet (.single c) = false from solid)]
  simp [Piece.isClosing]

theorem Filler.comment {kind : Kind} {body : Text} (comment : kind ≠ .literal) (inside : kind.Inside body) :
    Filler (Piece.marked kind body true).written := by
  cases kind with
  | literal => exact absurd rfl comment
  | line => exact .line (Kind.line_inside.mp inside)
  | block => exact .block (Kind.block_inside.mp inside)

theorem LooseEnd.behind {filler last : Text} (ended : LooseEnd last) (first : Filler filler) : LooseEnd (filler ++ last) := by
  cases ended with
  | last ended =>
    cases ended with
    | closed closed => exact .last (.closed (.cons first closed))
    | line closed noEnd =>
      rw [← List.append_assoc]
      exact .last (.line (.cons first closed) noEnd)
  | block closed unclosed =>
    rw [← List.append_assoc]
    exact .block (.cons first closed) unclosed

theorem Laid.filled {us : List Token} {filler text : Text} (laid : Laid Gap LooseEnd us text) (first : Filler filler) :
    Laid Gap LooseEnd us (filler ++ text) := by
  cases laid with
  | done ended => exact .done (ended.behind first)
  | token before laid =>
    rw [← List.append_assoc]
    exact .token (.cons first before) laid

-- The tokens of a stripped text, found again in the text that was stripped.
structure Recovered (ts : List Token) (found : List Piece) (text : Text) (us : List Token) : Prop where
  loose : Loose ts us
  laid : Laid Gap LooseEnd us text
  bare : closesNext found = true → us.head? ≠ some .comma

section
variable {ts us : List Token} {piece : Piece} {ahead others : List Piece} {text rest : Text}

theorem Recovered.quiet {filler : Text} (recovered : Recovered ts others rest us) (quiet : piece.isQuiet = true)
    (first : Filler filler) : Recovered ts (piece :: others) (filler ++ rest) us :=
  ⟨recovered.loose, Laid.filled recovered.laid first, fun closes => recovered.bare (closesNext_quiet quiet others ▸ closes)⟩

theorem Recovered.token {t : Token} (recovered : Recovered ts others rest us) (bare : closesNext ahead = true → t ≠ .comma) :
    Recovered (t :: ts) ahead (t.written ++ rest) (t :: us) :=
  ⟨.keep recovered.loose, .token .nil recovered.laid, fun closes same => bare closes (Option.some.inj same)⟩

theorem Recovered.comma (recovered : Recovered ts others rest us) (closes : closesNext others = true)
    (closing : ∃ t behind, ts = t :: behind ∧ t.isClosing = true) :
    Recovered ts (.single ',' :: others) (',' :: rest) (.comma :: us) := by
  obtain ⟨t, behind, rfl, closing⟩ := closing
  refine ⟨recovered.loose.before closing (recovered.bare closes), .token .nil recovered.laid, fun other => ?_⟩
  exact absurd ((closesNext_single (by decide) others).mp other) (by decide)

-- The induction on the pieces passes through the middle of a bare word: what remains of
-- the word in the stripped text stands in the text as well, and the tokens come behind it.
def Recovers (text : Text) (found : List Piece) : Prop :=
  ∀ {word rest : Text} {ts : List Token}, (∀ c ∈ word, isBare c = true) → plain found = word ++ rest →
    Laid Spaces Spaces ts rest → (∀ t ∈ ts, t.Proper) → ∃ us behind, text = word ++ behind ∧ Recovered ts found behind us

theorem Recovers.whole (recovers : Recovers text ahead) (laid : Laid Spaces Spaces ts (plain ahead))
    (proper : ∀ t ∈ ts, t.Proper) : ∃ us, Recovered ts ahead text us := by
  obtain ⟨us, behind, rfl, recovered⟩ := recovers (List.forall_mem_nil _) (List.nil_append _).symm laid proper
  exact ⟨us, recovered⟩

theorem Recovers.gap {c : Char} (recovers : Recovers rest others) (quiet : piece.isQuiet = true) (blank : isBlank c = true)
    (filler : isSpace c = true → Filler piece.written) (laid : Laid Spaces Spaces ts (c :: plain others))
    (proper : ∀ t ∈ ts, t.Proper) : ∃ us, Recovered ts (piece :: others) (piece.written ++ rest) us := by
  obtain ⟨space, laid⟩ := laid.blank proper blank
  obtain ⟨us, recovered⟩ := recovers.whole laid proper
  exact ⟨us, recovered.quiet quiet (filler space)⟩

theorem Recovers.literal {body : Text} (recovers : Recovers rest others) (inside : Paired false body)
    (laid : Laid Spaces Spaces ts ('"' :: (body ++ (['"'] ++ plain others)))) (proper : ∀ t ∈ ts, t.Proper) :
    ∃ us, Recovered ts (.marked .literal body true :: others) ((Piece.marked .literal body true).written ++ rest) us := by
  obtain ⟨raw, behind, later, rfl, read, laid⟩ := Laid.quoted laid proper
  rw [(Parted.closed body _ inside).toQuote] at read
  cases read
  obtain ⟨us, recovered⟩ := recovers.whole laid fun t member => proper t (List.mem_cons_of_mem _ member)
  exact ⟨.text body :: us, recovered.token fun _ => nofun⟩

theorem Recovers.single {c : Char} (recovers : Recovers rest others) (quote : c ≠ '"')
    (laid : Laid Spaces Spaces ts (plain (.single c :: others))) (proper : ∀ t ∈ ts, t.Proper) :
    ∃ us, Recovered ts (.single c :: others) (c :: rest) us := by
  rw [plain, Piece.plain] at laid
  split_ifs at laid with dropped
  · obtain ⟨rfl, closes⟩ := dropped
    obtain ⟨us, recovered⟩ := recovers.whole laid proper
    obtain ⟨gap, bracket, after, written, blanks, closing⟩ := plain_closesNext closes
    rw [List.nil_append, written] at laid
    exact ⟨.comma :: us, recovered.comma closes (laid.bracket proper blanks closing)⟩
  · rcases laid.first proper with ⟨space, laid⟩ | ⟨t, behind, word, after, rfl, written, shown, laid⟩
    · obtain ⟨us, recovered⟩ := recovers.whole laid proper
      have quiet : (Piece.single c).isQuiet = true := space_blank space
      exact ⟨us, recovered.quiet quiet (.space space)⟩
    · obtain ⟨d, more, same, solid, bare⟩ := Token.written_cons (proper t List.mem_cons_self)
      cases written.symm.trans same
      obtain ⟨us, last, rfl, recovered⟩ := recovers (bare quote) shown laid fun t member => proper t (List.mem_cons_of_mem _ member)
      refine ⟨t :: us, ?_⟩
      rw [show c :: (word ++ last) = t.written ++ last by rw [written]; rfl]
      refine recovered.token fun closes comma => ?_
      cases comma
      cases written
      exact absurd ((closesNext_single solid others).mp closes) (by decide)

theorem Recovers.closed {kind : Kind} {body : Text} (recovers : Recovers rest others) (inside : kind.Inside body)
    (laid : Laid Spaces Spaces ts (plain (.marked kind body true :: others))) (proper : ∀ t ∈ ts, t.Proper) :
    ∃ us, Recovered ts (.marked kind body true :: others) ((Piece.marked kind body true).written ++ rest) us := by
  cases kind with
  | literal =>
    refine recovers.literal inside ?_ proper
    simpa [plain, Piece.plain, Piece.written, Kind.opening, Kind.closing] using laid
  | line => exact recovers.gap rfl (show isBlank '\n' = true by decide) (fun _ => .comment (by decide) inside) laid proper
  | block => exact recovers.gap rfl (show isBlank ' ' = true by decide) (fun _ => .comment (by decide) inside) laid proper

theorem recovered_unclosed {kind : Kind} {body : Text} (last : kind.Last body)
    (laid : Laid Spaces Spaces ts (plain [.marked kind body false])) (proper : ∀ t ∈ ts, t.Proper) :
    ∃ us, Recovered ts [.marked kind body false] (Piece.marked kind body false).written us := by
  rw [Stripper.written_unclosed]
  cases kind with
  | literal =>
    have quoted : Laid Spaces Spaces ts ('"' :: body) := by
      simpa [plain, Piece.plain, Piece.written, Kind.opening] using laid
    obtain ⟨raw, behind, later, rfl, read, -⟩ := quoted.quoted proper
    cases (Parted.unclosed body last).toQuote.symm.trans read
  | line =>
    cases laid.of_nil proper
    exact ⟨[], .nil, .done (.last (.line .nil (Kind.line_last.mp last))), fun closes => absurd closes Bool.false_ne_true⟩
  | block =>
    cases (laid.blank proper (by decide)).2.of_nil proper
    exact ⟨[], .nil, .done (.block .nil last), fun closes => absurd closes Bool.false_ne_true⟩

theorem recovers_cut {found : List Piece} (cut : Cut text found) : Recovers text found := by
  induction cut with
  | nil =>
    intro word rest ts _ shown laid proper
    obtain ⟨rfl, rfl⟩ := List.append_eq_nil_iff.mp shown.symm
    cases laid.of_nil proper
    exact ⟨[], [], rfl, .nil, .done (.last (.closed .nil)), nofun⟩
  | @cons piece behind others fits cut ih =>
    intro word rest ts bare shown laid proper
    cases word with
    | cons c word =>
      have first := bare c List.mem_cons_self
      have closing : ¬ (c = '\x7d' ∨ c = ']') := by rintro (rfl | rfl) <;> exact absurd first (by decide)
      obtain ⟨_, same, more⟩ := plain_head (.cons fits cut) (bare_not_blank first) (bare_not_quote first) closing shown
      cases same
      obtain ⟨us, last, rfl, recovered⟩ := ih (fun d member => bare d (List.mem_cons_of_mem c member)) more laid proper
      exact ⟨us, last, rfl, recovered.loose, recovered.laid, fun closes =>
        absurd ((closesNext_single (bare_not_blank first) _).mp closes) closing⟩
    | nil =>
      suffices found : ∃ us, Recovered ts (piece :: others) (piece.written ++ behind) us from
        found.imp fun us recovered => ⟨_, rfl, recovered⟩
      cases (show plain (piece :: others) = rest from shown)
      cases piece with
      | single c => exact ih.single (fits_single_iff.mp fits).1 laid proper
      | marked kind body closed =>
        cases closed with
        | true => exact ih.closed fits laid proper
        | false =>
          obtain ⟨last, rfl⟩ := fits
          cases cut.of_nil
          rw [List.append_nil]
          exact recovered_unclosed last laid proper
end

theorem recover {ts : List Token} {text : Text} (laid : Laid Spaces Spaces ts (strip text)) (proper : ∀ t ∈ ts, t.Proper) :
    ∃ us, Loose ts us ∧ Laid Gap LooseEnd us text := by
  have recovers : Recovers text (pieces text) := recovers_cut (pieces_cut text)
  rw [strip_eq_plain] at laid
  obtain ⟨us, recovered⟩ := recovers.whole laid proper
  exact ⟨us, recovered.loose, recovered.laid⟩

end ImportHooks.Jsonc
