import ImportHooks.Proofs.Json.Grammar

namespace ImportHooks.Json
open Text

inductive Laid (Gap Last : Text → Prop) : List Token → Text → Prop where
  | done {last} (gap : Last last) : Laid Gap Last [] last
  | token {gap t ts text} (before : Gap gap) (rest : Laid Gap Last ts text) :
      Laid Gap Last (t :: ts) (gap ++ (t.written ++ text))

def Spaces (text : Text) : Prop := ∀ c ∈ text, isSpace c = true

theorem Spaces.append {left right : Text} (first : Spaces left) (second : Spaces right) : Spaces (left ++ right) := by
  intro c member
  exact (List.mem_append.mp member).elim (first c) (second c)

theorem Laid.mono {Gap Last Wider : Text → Prop} {ts : List Token} {text : Text} (laid : Laid Gap Last ts text)
    (wider : ∀ {last}, Last last → Wider last) : Laid Gap Wider ts text := by
  induction laid with
  | done gap => exact .done (wider gap)
  | token before rest ih => exact .token before ih

theorem Laid.pad {spaces text : Text} {ts : List Token} (laid : Laid Spaces Spaces ts text) (pad : Spaces spaces) :
    Laid Spaces Spaces ts (spaces ++ text) := by
  cases laid with
  | done gap => exact .done (pad.append gap)
  | token before rest =>
    rw [← List.append_assoc]
    exact .token (pad.append before) rest

theorem space_not_bare {c : Char} (space : isSpace c = true) : isBare c = false := by
  simp only [isSpace, Bool.or_eq_true, decide_eq_true_eq] at space
  rcases space with ((rfl | rfl) | rfl) | rfl <;> decide

theorem bare_not_space {c : Char} (bare : isBare c = true) : isSpace c = false := by
  cases h : isSpace c with
  | false => rfl
  | true => exact nomatch (space_not_bare h).symm.trans bare

theorem bare_not_quote {c : Char} (bare : isBare c = true) : c ≠ '"' := by
  rintro rfl
  exact absurd bare (by decide)

theorem NumberState.step_bare {s next : NumberState} {c : Char} (step : s.step c = some next) : isBare c = true := by
  cases h : isBare c with
  | true => rfl
  | false =>
    have digit : c.isDigit = false := by
      simp only [isBare, Char.isAlphanum, Bool.or_eq_false_iff] at h
      exact h.1.1.1.2
    have other {d : Char} (bare : isBare d = true) : c ≠ d := by
      rintro rfl
      exact nomatch h.symm.trans bare
    have zero : c ≠ '0' := other (by decide)
    have minus : c ≠ '-' := other (by decide)
    have plus : c ≠ '+' := other (by decide)
    have point : c ≠ '.' := other (by decide)
    have lower : c ≠ 'e' := other (by decide)
    have upper : c ≠ 'E' := other (by decide)
    cases s <;> simp [NumberState.step, digit, zero, minus, plus, point, lower, upper] at step

theorem number_bare {raw : Text} {s next : NumberState} (read : raw.foldlM NumberState.step s = some next) :
    ∀ c ∈ raw, isBare c = true := by
  induction raw generalizing s with
  | nil => nofun
  | cons first rest ih =>
    rw [List.foldlM_cons] at read
    obtain ⟨_, step, others⟩ := Option.bind_eq_some_iff.mp read
    intro c member
    rcases List.mem_cons.mp member with rfl | later
    · exact NumberState.step_bare step
    · exact ih others c later

theorem isNumber_reads {raw : Text} (number : isNumber raw = true) :
    ∃ s : NumberState, raw.foldlM NumberState.step .start = some s ∧ s.accepts = true := by
  rw [isNumber] at number
  cases h : raw.foldlM NumberState.step .start with
  | none => simp [h] at number
  | some s => exact ⟨s, rfl, by simpa [h] using number⟩

theorem bare?_number {raw : Text} (number : isNumber raw = true) : bare? raw = some (.number raw) := by
  have other {word : Text} (refused : isNumber word = false) : raw ≠ word := by
    rintro rfl
    exact nomatch refused.symm.trans number
  rw [bare?, if_neg (other (by decide)), if_neg (other (by decide)), if_neg (other (by decide)), if_pos number]

theorem Token.bare_written {t : Token} (bare : t.isBare = true) (proper : t.Proper) :
    t.written ≠ [] ∧ (∀ c ∈ t.written, Json.isBare c = true) ∧ bare? t.written = some t := by
  cases t with
  | null => exact ⟨nofun, List.all_eq_true.mp rfl, rfl⟩
  | bool value => cases value <;> exact ⟨nofun, List.all_eq_true.mp rfl, rfl⟩
  | number raw =>
    obtain ⟨s, read, accepted⟩ := isNumber_reads proper
    refine ⟨?_, number_bare read, bare?_number proper⟩
    rintro empty
    cases (show raw = [] from empty)
    cases Option.some.inj read
    exact absurd accepted (by decide)
  | _ => simp [Token.isBare] at bare

theorem Token.written_not_bare {t : Token} (other : t.isBare = false) :
    ∃ c rest, t.written = c :: rest ∧ Json.isBare c = false := by
  cases t with
  | null | bool | number => simp [Token.isBare] at other
  | _ => exact ⟨_, _, rfl, by decide⟩

def Apart (text : Text) : Prop := ∀ c ∈ text.head?, isBare c = false

theorem Spaces.apart_append {spaces text : Text} (gap : Spaces spaces) (apart : Apart text) : Apart (spaces ++ text) := by
  cases spaces with
  | nil => exact apart
  | cons c rest =>
    intro d member
    cases Option.some.inj member
    exact space_not_bare (gap c List.mem_cons_self)

theorem Laid.apart {ts : List Token} {text : Text} (laid : Laid Spaces Spaces ts text)
    (other : ∀ t ∈ ts.head?, t.isBare = false) : Apart text := by
  cases laid with
  | done gap =>
    rw [← List.append_nil text]
    exact gap.apart_append nofun
  | token before rest =>
    obtain ⟨c, shown, written, notBare⟩ := Token.written_not_bare (other _ rfl)
    apply before.apart_append
    rw [written]
    intro d member
    cases Option.some.inj member
    exact notBare

namespace Scan

theorem run_quiet {s next : Scan} {c : Char} (rest : Text) (step : s.step c = some ([], next)) :
    s.run (c :: rest) = next.run rest := by
  simp [run, step]

theorem run_emit {s next : Scan} {c : Char} {t : Token} (rest : Text) (step : s.step c = some ([t], next)) :
    s.run (c :: rest) = (next.run rest).map (t :: ·) := by
  simp [run, step]

theorem run_spaces {gap : Text} (spaces : Spaces gap) (rest : Text) : Scan.gap.run (gap ++ rest) = Scan.gap.run rest := by
  induction gap with
  | nil => rfl
  | cons c gap ih =>
    have begins : Scan.gap.step c = some ([], .gap) := if_pos (spaces c List.mem_cons_self)
    rw [List.cons_append, run_quiet _ begins]
    exact ih fun d member => spaces d (List.mem_cons_of_mem c member)

theorem run_body {raw : Text} (body : TextBody raw) (seen rest : Text) :
    (Scan.text seen).run (raw ++ '"' :: rest) = (Scan.gap.run rest).map (.text (seen.reverse ++ raw) :: ·) := by
  induction body generalizing seen with
  | nil =>
    rw [List.append_nil]
    exact run_emit rest rfl
  | plain quote slash shown body ih =>
    rename_i c raw
    have step : (Scan.text seen).step c = some ([], .text (c :: seen)) := by
      simp [Scan.step, quote, slash, Nat.not_lt.mpr shown]
    rw [List.cons_append, run_quiet _ step, ih]
    simp
  | escape known body ih =>
    rename_i c raw
    have other : c ≠ 'u' := by
      rintro rfl
      exact absurd known (by decide)
    have step : (Scan.escaped ('\\' :: seen)).step c = some ([], .text (c :: '\\' :: seen)) := by
      simp [Scan.step, other, known]
    rw [List.cons_append, List.cons_append, run_quiet _ (show (Scan.text seen).step '\\' = _ from rfl),
      run_quiet _ step, ih]
    simp
  | unicode first second third fourth body ih =>
    rename_i a b c d raw
    have hex (missing : Nat) (more : Text) {e : Char} (isHex : isHex e = true) :
        (Scan.hex missing more).step e = some ([], if missing ≤ 1 then .text (e :: more) else .hex (missing - 1) (e :: more)) :=
      if_pos isHex
    simp only [List.cons_append]
    rw [run_quiet _ (show (Scan.text seen).step '\\' = _ from rfl),
      run_quiet _ (show (Scan.escaped ('\\' :: seen)).step 'u' = _ from rfl),
      run_quiet _ (hex 4 _ first), if_neg (by decide), run_quiet _ (hex 3 _ second), if_neg (by decide),
      run_quiet _ (hex 2 _ third), if_neg (by decide), run_quiet _ (hex 1 _ fourth), if_pos (by decide), ih]
    simp

theorem run_bare {raw : Text} (bare : ∀ c ∈ raw, isBare c = true) (seen rest : Text) :
    (Scan.bare seen).run (raw ++ rest) = (Scan.bare (raw.reverse ++ seen)).run rest := by
  induction raw generalizing seen with
  | nil => rfl
  | cons c raw ih =>
    have step : (Scan.bare seen).step c = some ([], .bare (c :: seen)) := if_pos (bare c List.mem_cons_self)
    rw [List.cons_append, run_quiet _ step, ih fun d member => bare d (List.mem_cons_of_mem c member)]
    simp

-- A bare word ends where the text does, or before a character of no bare word.
theorem run_bare_end {seen rest : Text} {t : Token} (known : bare? seen.reverse = some t) (apart : Apart rest) :
    (Scan.bare seen).run rest = (Scan.gap.run rest).map (t :: ·) := by
  cases rest with
  | nil => simp [run, finish?, known]
  | cons c rest =>
    have other : isBare c = false := apart c rfl
    cases h : begin? c <;> simp [run, Scan.step, other, known, h, Function.comp_def]

theorem run_token {t : Token} {rest : Text} (proper : t.Proper) (apart : t.isBare = true → Apart rest) :
    Scan.gap.run (t.written ++ rest) = (Scan.gap.run rest).map (t :: ·) := by
  cases bare : t.isBare with
  | false =>
    cases t with
    | null | bool | number => simp [Token.isBare] at bare
    | text raw =>
      simp only [Token.written, List.cons_append, List.append_assoc, List.nil_append]
      rw [run_quiet _ (show Scan.gap.step '"' = _ from rfl)]
      exact run_body proper [] rest
    | _ => exact run_emit rest rfl
  | true =>
    obtain ⟨shown, all, known⟩ := Token.bare_written bare proper
    obtain ⟨c, raw, written⟩ := List.exists_cons_of_ne_nil shown
    rw [written] at all known ⊢
    have first := all c List.mem_cons_self
    have begins : Scan.gap.step c = some ([], .bare [c]) := by
      simp [Scan.step, begin?, bare_not_space first, bare_not_quote first, first]
    rw [List.cons_append, run_quiet _ begins, run_bare fun d member => all d (List.mem_cons_of_mem c member)]
    exact run_bare_end (by simpa using known) (apart bare)

end Scan

theorem tokens?_laid {ts : List Token} {text : Text} (laid : Laid Spaces Spaces ts text)
    (proper : ∀ t ∈ ts, t.Proper) (chain : ts.IsChain Reader.Follows) : tokens? text = some ts := by
  unfold tokens?
  induction laid with
  | done gap =>
    rename_i last
    rw [← List.append_nil last, Scan.run_spaces gap]
    rfl
  | token before rest ih =>
    rename_i t ts text
    have apart : t.isBare = true → Apart text := by
      intro bare
      apply rest.apart
      intro next member
      cases chain with
      | singleton => cases member
      | cons_cons follows _ =>
        cases Option.some.inj member
        exact Bool.eq_false_iff.mpr fun nextBare => follows.2 ⟨bare, nextBare⟩
    rw [Scan.run_spaces before, Scan.run_token (proper t List.mem_cons_self) apart,
      ih (fun next member => proper next (List.mem_cons_of_mem t member)) chain.tail]
    rfl

end ImportHooks.Json
