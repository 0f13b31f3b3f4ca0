import ImportHooks.Proofs.Json.Layout

namespace ImportHooks.Json
open Text

theorem TextBody.append {front behind : Text} (first : TextBody front) (second : TextBody behind) :
    TextBody (front ++ behind) := by
  induction first with
  | nil => exact second
  | plain quote slash shown body ih => exact .plain quote slash shown ih
  | escape known body ih => exact .escape known ih
  | unicode first second third fourth body ih => exact .unicode first second third fourth ih

theorem bare?_sound {raw : Text} {t : Token} (known : bare? raw = some t) : t.written = raw ∧ t.Proper := by
  unfold bare? at known
  split_ifs at known with null yes no number <;> cases known
  · exact ⟨null.symm, trivial⟩
  · exact ⟨yes.symm, trivial⟩
  · exact ⟨no.symm, trivial⟩
  · exact ⟨rfl, number⟩

theorem mark?_sound {c : Char} {t : Token} (known : mark? c = some t) : t.written = [c] ∧ t.Proper := by
  unfold mark? at known
  split_ifs at known <;> cases known <;> subst_vars <;> exact ⟨rfl, trivial⟩

theorem Laid.behind {t : Token} {ts : List Token} {text : Text} (laid : Laid Spaces Spaces ts text) :
    Laid Spaces Spaces (t :: ts) (t.written ++ text) := .token (show Spaces [] from nofun) laid

namespace Scan

def begun : Scan → Text
  | .gap => []
  | .bare seen => seen.reverse
  | .text seen | .escaped seen | .hex _ seen => '"' :: seen.reverse

-- What is begun can still become a text of the grammar.
inductive Sound : Scan → Prop where
  | gap : Sound .gap
  | bare {seen} : Sound (.bare seen)
  | text {seen} (body : TextBody seen.reverse) : Sound (.text seen)
  | escaped {seen} (body : TextBody seen.reverse) : Sound (.escaped ('\\' :: seen))
  | hex {missing digits seen} (body : TextBody seen.reverse) (hex : ∀ d ∈ digits, isHex d = true)
      (count : digits.length + missing = 4) (more : 0 < missing) : Sound (.hex missing (digits ++ 'u' :: '\\' :: seen))

structure Emits (seen : Text) (emitted : List Token) (next : Scan) : Prop where
  sound : next.Sound
  proper : ∀ t ∈ emitted, t.Proper
  laid : ∀ {ts text}, Laid Spaces Spaces ts (next.begun ++ text) → Laid Spaces Spaces (emitted ++ ts) (seen ++ text)

theorem Emits.quiet {seen : Text} {next : Scan} (sound : next.Sound) (same : next.begun = seen) : Emits seen [] next :=
  ⟨sound, nofun, fun laid => same ▸ laid⟩

theorem begin?_emits {c : Char} {emitted : List Token} {next : Scan} (step : begin? c = some (emitted, next)) :
    Emits [c] emitted next := by
  unfold begin? at step
  split_ifs at step with space quote bare
  · cases step
    exact ⟨.gap, nofun, fun laid => laid.pad (List.forall_mem_singleton.mpr space)⟩
  · cases step
    exact .quiet (.text .nil) (quote ▸ rfl)
  · cases step
    exact .quiet .bare rfl
  · obtain ⟨t, known, same⟩ := Option.map_eq_some_iff.mp step
    cases same
    obtain ⟨written, proper⟩ := mark?_sound known
    exact ⟨.gap, List.forall_mem_singleton.mpr proper, fun laid => written ▸ laid.behind⟩

theorem step_emits {s next : Scan} {c : Char} {emitted : List Token} (sound : s.Sound) (step : s.step c = some (emitted, next)) :
    Emits (s.begun ++ [c]) emitted next := by
  cases sound with
  | gap => exact begin?_emits step
  | @bare seen =>
    simp only [Scan.step] at step
    split_ifs at step with bare
    · cases step
      exact .quiet .bare List.reverse_cons
    · obtain ⟨t, known, step⟩ := Option.bind_eq_some_iff.mp step
      obtain ⟨⟨ts, after⟩, begins, same⟩ := Option.bind_eq_some_iff.mp step
      cases same
      obtain ⟨written, proper⟩ := bare?_sound known
      have emits := begin?_emits begins
      refine ⟨emits.sound, List.forall_mem_cons.mpr ⟨proper, emits.proper⟩, fun laid => ?_⟩
      rw [begun, ← written, List.append_assoc]
      exact (emits.laid laid).behind
  | @text seen body =>
    simp only [Scan.step] at step
    split_ifs at step with quote slash control
    · cases step
      refine ⟨.gap, List.forall_mem_singleton.mpr body, fun laid => ?_⟩
      rw [begun, quote]
      exact laid.behind
    · cases step
      rw [slash]
      exact .quiet (.escaped body) (by simp [begun])
    · cases step
      have longer : TextBody (c :: seen).reverse := by
        rw [List.reverse_cons]
        exact body.append (.plain quote slash (Nat.le_of_not_lt control) .nil)
      exact .quiet (.text longer) (by simp [begun])
  | @escaped seen body =>
    simp only [Scan.step] at step
    split_ifs at step with unicode known
    · cases step
      rw [unicode]
      have opened : Sound (.hex 4 ([] ++ 'u' :: '\\' :: seen)) := .hex body (List.forall_mem_nil _) rfl (by decide)
      exact .quiet opened (by simp [begun])
    · cases step
      have longer : TextBody (c :: '\\' :: seen).reverse := by
        rw [List.reverse_cons, List.reverse_cons, List.append_assoc]
        exact body.append (.escape known .nil)
      exact .quiet (.text longer) (by simp [begun])
  | @hex missing digits seen body hex count more =>
    simp only [Scan.step] at step
    split_ifs at step with digit last
    · cases step
      obtain ⟨d₃, d₂, d₁, rfl⟩ := List.length_eq_three.mp (show digits.length = 3 by omega)
      simp only [List.forall_mem_cons] at hex
      obtain ⟨third, second, first, -⟩ := hex
      have longer : TextBody (c :: ([d₃, d₂, d₁] ++ 'u' :: '\\' :: seen)).reverse := by
        have escape : TextBody ['\\', 'u', d₁, d₂, d₃, c] := .unicode first second third digit .nil
        simpa using body.append escape
      exact .quiet (.text longer) (by simp [begun])
    · cases step
      have longer : Sound (.hex (missing - 1) ((c :: digits) ++ 'u' :: '\\' :: seen)) :=
        .hex body (List.forall_mem_cons.mpr ⟨digit, hex⟩) (by rw [List.length_cons]; omega) (by omega)
      exact .quiet longer (by simp [begun])

theorem finish?_laid {s : Scan} {ts : List Token} (finished : s.finish? = some ts) :
    Laid Spaces Spaces ts s.begun ∧ ∀ t ∈ ts, t.Proper := by
  cases s with
  | gap =>
    cases finished
    exact ⟨.done nofun, nofun⟩
  | bare seen =>
    obtain ⟨t, known, same⟩ := Option.map_eq_some_iff.mp finished
    cases same
    obtain ⟨written, proper⟩ := bare?_sound known
    have laid : Laid Spaces Spaces [t] (t.written ++ []) := .behind (.done nofun)
    rw [List.append_nil, written] at laid
    exact ⟨laid, List.forall_mem_singleton.mpr proper⟩
  | _ => cases finished

theorem run_laid {s : Scan} {text : Text} {ts : List Token} (sound : s.Sound) (ran : s.run text = some ts) :
    Laid Spaces Spaces ts (s.begun ++ text) ∧ ∀ t ∈ ts, t.Proper := by
  induction text generalizing s ts with
  | nil =>
    rw [List.append_nil]
    exact finish?_laid ran
  | cons c rest ih =>
    obtain ⟨⟨emitted, next⟩, step, others⟩ := Option.bind_eq_some_iff.mp ran
    obtain ⟨later, goes, rfl⟩ := Option.map_eq_some_iff.mp others
    have emits := step_emits sound step
    obtain ⟨laid, proper⟩ := ih emits.sound goes
    refine ⟨?_, List.forall_mem_append.mpr ⟨emits.proper, proper⟩⟩
    rw [List.append_cons]
    exact emits.laid laid

end Scan

theorem tokens?_sound {text : Text} {ts : List Token} (scanned : tokens? text = some ts) :
    Laid Spaces Spaces ts text ∧ ∀ t ∈ ts, t.Proper := Scan.run_laid .gap scanned

namespace Tree

def itemsBefore (items : List Tree) : List Token := if items = [] then [] else itemTokens items ++ [.comma]
def membersBefore (members : List (Text × Tree)) : List Token :=
  if members = [] then [] else memberTokens members ++ [.comma]

theorem moreItems_append (items : List Tree) (value : Tree) :
    moreItems (items ++ [value]) = moreItems items ++ .comma :: value.tokens := by
  induction items with
  | nil => simp [moreItems]
  | cons item rest ih => simp [moreItems, ih]

theorem moreMembers_append (members : List (Text × Tree)) (key : Text) (value : Tree) :
    moreMembers (members ++ [(key, value)]) = moreMembers members ++ .comma :: .text key :: .colon :: value.tokens := by
  induction members with
  | nil => simp [moreMembers]
  | cons member rest ih => simp [moreMembers, ih]

theorem itemTokens_append (items : List Tree) (value : Tree) :
    itemTokens (items ++ [value]) = itemsBefore items ++ value.tokens := by
  cases items with
  | nil => simp [itemTokens, moreItems, itemsBefore]
  | cons item rest => simp [itemTokens, moreItems_append, itemsBefore]

theorem memberTokens_append (members : List (Text × Tree)) (key : Text) (value : Tree) :
    memberTokens (members ++ [(key, value)]) = membersBefore members ++ .text key :: .colon :: value.tokens := by
  cases members with
  | nil => simp [memberTokens, moreMembers, membersBefore]
  | cons member rest => simp [memberTokens, moreMembers_append, membersBefore]

end Tree

namespace Reader
open Json.Tree

def inFrame : Frame → List Token
  | .array done => .openArray :: itemsBefore done.reverse
  | .member done key => .openObject :: membersBefore done.reverse ++ [.text key, .colon]

def inFrames : List Frame → List Token
  | [] => []
  | frame :: outer => inFrames outer ++ inFrame frame

def inside : Expect → List Token
  | .value => []
  | .item => [.openArray]
  | .key done _ => .openObject :: membersBefore done.reverse
  | .colon done key => .openObject :: membersBefore done.reverse ++ [.text key]
  | .afterItem done => .openArray :: itemTokens done.reverse
  | .afterMember done => .openObject :: memberTokens done.reverse
  | .nothing document => document.tokens

-- The tokens that were read on the way to a state of the reader.
def consumed (r : Reader) : List Token := inFrames r.frames ++ inside r.expect

def Sound (r : Reader) : Prop :=
  match r.expect with
  | .key done first => first = true ↔ done = []
  | .afterItem done => done ≠ []
  | .afterMember done => done ≠ []
  | .nothing _ => r.frames = []
  | _ => True

theorem complete_consumed (value : Tree) (frames : List Frame) :
    (complete value frames).Sound ∧ (complete value frames).consumed = inFrames frames ++ value.tokens := by
  cases frames with
  | nil => exact ⟨rfl, rfl⟩
  | cons frame outer =>
    cases frame with
    | array done => exact ⟨List.cons_ne_nil _ _, by simp [complete, consumed, inside, inFrames, inFrame, itemTokens_append]⟩
    | member done key =>
      exact ⟨List.cons_ne_nil _ _, by simp [complete, consumed, inside, inFrames, inFrame, memberTokens_append]⟩

theorem value?_consumed {frames : List Frame} {t : Token} {next : Reader} (step : value? frames t = some next) :
    next.Sound ∧ next.consumed = inFrames frames ++ [t] := by
  cases t with
  | null | bool | number | text =>
    cases step
    exact complete_consumed _ frames
  | openArray =>
    cases step
    exact ⟨trivial, rfl⟩
  | openObject =>
    cases step
    exact ⟨Iff.intro (fun _ => rfl) (fun _ => rfl), rfl⟩
  | _ => cases step

theorem close_consumed {value : Tree} {expect : Expect} {frames : List Frame} {t : Token}
    (whole : value.tokens = inside expect ++ [t]) :
    (complete value frames).Sound ∧ (complete value frames).consumed = (Reader.mk expect frames).consumed ++ [t] := by
  obtain ⟨sound, consumed⟩ := complete_consumed value frames
  refine ⟨sound, ?_⟩
  rw [consumed, whole, Reader.consumed, List.append_assoc]

theorem step_consumed {r next : Reader} {t : Token} (sound : r.Sound) (step : r.step t = some next) :
    next.Sound ∧ next.consumed = r.consumed ++ [t] := by
  obtain ⟨expect, frames⟩ := r
  cases expect with
  | value =>
    rw [show (Reader.mk .value frames).consumed = inFrames frames from List.append_nil _]
    exact value?_consumed step
  | item =>
    simp only [Reader.step] at step
    split_ifs at step with closing
    · cases step
      rw [closing]
      exact close_consumed rfl
    · exact value?_consumed step
  | key done first =>
    cases t with
    | text key =>
      cases step
      exact ⟨trivial, by simp [consumed, inside]⟩
    | closeObject =>
      simp only [Reader.step] at step
      split_ifs at step with empty
      cases step
      cases sound.mp empty
      exact close_consumed rfl
    | _ => cases step
  | colon done key =>
    simp only [Reader.step] at step
    split_ifs at step with colon
    cases step
    exact ⟨trivial, by simp [consumed, inside, inFrames, inFrame, colon]⟩
  | afterItem done =>
    cases t with
    | comma =>
      cases step
      have shown : done ≠ [] := sound
      exact ⟨trivial, by simp [consumed, inside, inFrames, inFrame, itemsBefore, shown]⟩
    | closeArray =>
      cases step
      exact close_consumed rfl
    | _ => cases step
  | afterMember done =>
    cases t with
    | comma =>
      cases step
      have shown : done ≠ [] := sound
      exact ⟨Iff.intro nofun fun empty => absurd empty shown, by simp [consumed, inside, membersBefore, shown]⟩
    | closeObject =>
      cases step
      exact close_consumed rfl
    | _ => cases step
  | nothing document => cases step

theorem run_consumed {r last : Reader} {tokens : List Token} (sound : r.Sound)
    (ran : tokens.foldlM Reader.step r = some last) : last.Sound ∧ last.consumed = r.consumed ++ tokens := by
  induction tokens generalizing r with
  | nil =>
    cases ran
    exact ⟨sound, (List.append_nil _).symm⟩
  | cons t rest ih =>
    rw [List.foldlM_cons] at ran
    obtain ⟨next, step, others⟩ := Option.bind_eq_some_iff.mp ran
    obtain ⟨after, consumed⟩ := step_consumed sound step
    obtain ⟨done, whole⟩ := ih after others
    exact ⟨done, by rw [whole, consumed, List.append_assoc, List.singleton_append]⟩

end Reader

namespace Tree

theorem ofTokens?_sound {tokens : List Token} {tree : Tree} (read : ofTokens? tokens = some tree) : tokens = tree.tokens := by
  obtain ⟨last, ran, document⟩ := Option.bind_eq_some_iff.mp read
  obtain ⟨sound, consumed⟩ := Reader.run_consumed (r := .start) trivial ran
  obtain ⟨expect, frames⟩ := last
  cases expect with
  | nothing whole =>
    cases document
    cases (show frames = [] from sound)
    exact consumed.symm
  | _ => cases document

structure Written (tree : Tree) (text : Text) : Prop where
  laid : Laid Spaces Spaces tree.tokens text
  proper : ∀ t ∈ tree.tokens, t.Proper

theorem written_of_tokens {text : Text} {tree : Tree} (scanned : tokens? text = some tree.tokens) : tree.Written text :=
  ⟨(tokens?_sound scanned).1, (tokens?_sound scanned).2⟩

theorem read?_iff {text : Text} {tree : Tree} : read? text = some tree ↔ tree.Written text := by
  constructor
  · intro read
    obtain ⟨tokens, scanned, built⟩ := Option.bind_eq_some_iff.mp read
    cases ofTokens?_sound built
    exact written_of_tokens scanned
  · rintro ⟨laid, proper⟩
    rw [read?, tokens?_laid laid proper tree.tokens_chain, Option.bind_some, ofTokens?_tokens]

end Tree

def IsDocument (text : Text) : Prop := ∃ tree : Tree, tree.Written text

theorem isDocument_iff {text : Text} : IsDocument text ↔ (Tree.read? text).isSome = true := by
  simp only [IsDocument, ← Tree.read?_iff, Option.isSome_iff_exists]

instance (text : Text) : Decidable (IsDocument text) := decidable_of_iff _ isDocument_iff.symm

end ImportHooks.Json
