import ImportHooks.Proofs.Url.Host
import ImportHooks.Url.File

namespace ImportHooks.Url
open Text

-- A URL comes about in one of these ways.
inductive Made : Url → Prop where
  | parsed {text : Text} {url : Url} (read : parse? text = some url) : Made url
  | joined {base url : Url} {reference : Text} (made : Made base) (read : base.join? reference = some url) : Made url
  | ofPath {path : Path} {url : Url} (converted : ofFilePath? path = some url) : Made url

def IsScheme (scheme : Text) : Prop := (∃ letter rest, scheme = letter :: rest ∧ letter.isAlpha = true) ∧ ':' ∉ scheme

structure Authority.Sound (a : Authority) : Prop where
  credentials : Unmarked a.credentials
  host : ∀ h, a.host = some h → h.Sound
  hostless : a.host = none → a.credentials = [] ∧ a.portNumber = none

def Unslashed (parts : List Text) : Prop := ∀ part ∈ parts, '/' ∉ part

structure Sound (u : Url) : Prop where
  scheme : IsScheme u.scheme
  authority : ∀ a, u.authority = some a → a.Sound
  parts : ∀ parts, u.route = .segments parts → Unslashed parts
  plain : ∀ text, u.route = .plain text → u.authority = none ∧ text.head? ≠ some '/'

theorem isScheme_file : IsScheme fileScheme := ⟨⟨'f', _, rfl, rfl⟩, by decide⟩

theorem ascii_of_isAlphanum {c : Char} (part : c.isAlphanum = true) : c.toNat < 128 := by
  have ranges : c.isAlphanum = ((decide ('A'.val ≤ c.val ∧ c.val ≤ 'Z'.val) || ('a'.val ≤ c.val && c.val ≤ 'z'.val)) ||
      ('0'.val ≤ c.val && c.val ≤ '9'.val)) := rfl
  simp only [ranges, Bool.or_eq_true, Bool.and_eq_true, decide_eq_true_eq, UInt32.le_iff_toNat_le] at part
  have value : c.val.toNat = c.toNat := rfl
  have upper : 'Z'.val.toNat = 90 := rfl
  have lower : 'z'.val.toNat = 122 := rfl
  have digit : '9'.val.toNat = 57 := rfl
  omega

theorem of_ascii {p : Char → Bool} (tried : ∀ n ∈ List.range 128, p (Char.ofNat n) = true) {c : Char}
    (ascii : c.toNat < 128) : p c = true := by
  have found := tried c.toNat (List.mem_range.mpr ascii)
  rwa [Char.ofNat_toNat] at found

def isSchemePart (c : Char) : Bool := c.isAlphanum || c = '+' || c = '-' || c = '.'

theorem lower_part {c : Char} (part : isSchemePart c = true) :
    c.toLower ≠ ':' ∧ (c.isAlpha = true → c.toLower.isAlpha = true) := by
  have ascii : c.toNat < 128 := by
    simp only [isSchemePart, Bool.or_eq_true, decide_eq_true_eq] at part
    rcases part with ((letter | rfl) | rfl) | rfl
    · exact ascii_of_isAlphanum letter
    all_goals decide
  -- what is said of one part of a scheme is said of every character, so that it can be tried
  have tried := of_ascii (p := fun c => !isSchemePart c || (c.toLower ≠ ':' && (!c.isAlpha || c.toLower.isAlpha)))
    (by decide +kernel) ascii
  simp only [part, Bool.not_true, Bool.false_or, Bool.and_eq_true, decide_eq_true_eq, Bool.or_eq_true,
    Bool.not_eq_true'] at tried
  refine ⟨tried.1, fun letter => ?_⟩
  rcases tried.2 with other | lower
  · rw [letter] at other
    cases other
  · exact lower

theorem scheme?_isScheme {text rest : List Glyph} {scheme : Text} (read : scheme? text = some (scheme, rest)) :
    IsScheme scheme := by
  unfold scheme? at read
  cases text with
  | nil => cases read
  | cons first others =>
    simp only at read
    split at read
    · split at read
      · rename_i accepted
        simp only [Option.some.injEq, Prod.mk.injEq] at read
        obtain ⟨rfl, -⟩ := read
        simp only [Bool.and_eq_true, decide_eq_true_eq] at accepted
        have letter : first.char.isAlpha = true := accepted.2
        have part : isSchemePart first.char = true := by simp [isSchemePart, Char.isAlphanum, letter]
        constructor
        · have whole := List.takeWhile_cons_of_pos (p := fun g : Glyph => isSchemePart g.char) (l := others) part
          exact ⟨first.char.toLower, _, congrArg (fun gs => (chars gs).map Char.toLower) whole, (lower_part part).2 letter⟩
        · intro colon
          obtain ⟨c, inside, lower⟩ := List.mem_map.mp colon
          obtain ⟨g, member, rfl⟩ := List.mem_map.mp inside
          exact (lower_part (List.all_eq_true.mp List.all_takeWhile g member)).1 lower
      · cases read
    · cases read

theorem escape_unmarked {set : EscapeSet} (escaped : ∀ c ∈ authorityMarks, set c = true) (text : Text) :
    Unmarked (escape set text) := by
  intro c inside marked
  refine not_mem_escape (escaped c marked) ?_ ?_ text inside
  · rintro rfl
    revert marked
    decide
  · intro n member same
    subst same
    revert marked
    exact (by decide : ∀ n ∈ List.range 16, upperHex n ∉ authorityMarks) n member

theorem credentials_unmarked (text : Text) : Unmarked (credentials text) := by
  have all : ∀ c ∈ authorityMarks, inUserinfo c = true := List.all_eq_true.mp (by decide)
  unfold credentials
  simp only
  refine (escape_unmarked all _).append ?_
  split
  · intro c inside
    cases inside
  · have colon : Unmarked [':'] := unmarked_of_all (by decide)
    exact colon.append (escape_unmarked all _)

theorem authority?_sound {scheme user host number : Text} {a : Authority} (unmarked : Unmarked user)
    (read : authority? scheme user host number = some a) : a.Sound := by
  unfold authority? at read
  split at read
  · split at read
    · cases read
    · cases read
      exact ⟨by simp [Unmarked], by simp, by simp⟩
  · rename_i nonempty
    simp only [List.isEmpty_iff] at nonempty
    have placed {h : Host} (sound : h.Sound) (number : Option Nat) : Authority.Sound ⟨user, some h, number⟩ := by
      refine ⟨unmarked, ?_, by simp⟩
      rintro _ ⟨⟩
      exact sound
    split at read
    · obtain ⟨found, parsed, read⟩ := Option.bind_eq_some_iff.mp read
      obtain ⟨service, _, read⟩ := Option.bind_eq_some_iff.mp read
      cases read
      exact placed (Host.parse?_sound parsed) service
    · obtain ⟨found, parsed, read⟩ := Option.bind_eq_some_iff.mp read
      obtain ⟨service, _, read⟩ := Option.bind_eq_some_iff.mp read
      cases read
      exact placed (Host.parsePlain?_sound nonempty parsed) service

theorem unslashed_partsOf (text : Text) : Unslashed (partsOf text) := by
  unfold partsOf
  split
  · intro part member
    cases member
  · intro part member
    exact separator_not_mem member

theorem unslashed_read (scheme : Text) (start : Draft) (text : List Glyph) :
    Unslashed (read scheme start text).parts := unslashed_partsOf _

theorem unslashed_readPath (scheme : Text) (path : List Glyph) : Unslashed (readPath scheme path).parts := by
  unfold readPath
  simp only
  split
  · intro part member
    cases member
  · exact unslashed_read _ _ _

theorem unslashed_readBehind (scheme : Text) (base : List Text) (text : List Glyph) :
    Unslashed (readBehind scheme base text) := unslashed_read _ _ _

theorem build_sound {scheme : Text} {authority : Option Authority} {parts : List Text} {t : Tail}
    (named : IsScheme scheme) (placed : ∀ a, authority = some a → a.Sound) (unslashed : Unslashed parts) :
    Sound (build scheme authority parts t) := by
  refine ⟨named, placed, ?_, ?_⟩
  · rintro others ⟨⟩
    exact unslashed
  · rintro text ⟨⟩

theorem Sound.withTail {u : Url} (sound : u.Sound) (query fragment : Option Text) :
    Sound { u with query := query, fragment := fragment } :=
  ⟨sound.scheme, sound.authority, sound.parts, sound.plain⟩

theorem readAuthority?_sound {scheme : Text} {text : List Glyph} {u : Url} (named : IsScheme scheme)
    (read : readAuthority? scheme text = some u) : u.Sound := by
  unfold readAuthority? at read
  simp only at read
  split at read
  · cases read
  · obtain ⟨a, found, read⟩ := Option.bind_eq_some_iff.mp read
    cases read
    refine build_sound named ?_ (unslashed_readPath _ _)
    rintro b ⟨⟩
    exact authority?_sound (credentials_unmarked _) found

theorem buildFile_sound {host : Option Host} {parts : List Text} {t : Tail} (placed : ∀ h, host = some h → h.Sound)
    (unslashed : Unslashed parts) : Sound (buildFile host parts t) := by
  refine build_sound isScheme_file ?_ unslashed
  rintro a ⟨⟩
  exact ⟨by simp [fileAuthority, Unmarked], placed, fun _ => ⟨rfl, rfl⟩⟩

theorem fileHost?_sound {text : Text} {host : Option Host} (read : fileHost? text = some host) :
    ∀ h, host = some h → h.Sound := by
  rintro h rfl
  unfold fileHost? at read
  split at read
  · cases read
  · obtain ⟨found, parsed, read⟩ := Option.map_eq_some_iff.mp read
    split at read
    · cases read
    · cases read
      exact Host.parse?_sound parsed

theorem readFileHost?_sound {text : List Glyph} {u : Url} (read : readFileHost? text = some u) : u.Sound := by
  unfold readFileHost? at read
  simp only at read
  split at read
  · cases read
    exact buildFile_sound (by simp) (unslashed_read _ _ _)
  · obtain ⟨host, found, read⟩ := Option.bind_eq_some_iff.mp read
    split at read
    · cases read
      exact buildFile_sound (by simp) (unslashed_read _ _ _)
    · cases read
      refine buildFile_sound ?_ (unslashed_readPath _ _)
      intro h kept
      split at kept
      · cases kept
      · cases kept
        exact fileHost?_sound found _ rfl

theorem Sound.host?_sound {u : Url} (sound : u.Sound) : ∀ h, u.host? = some h → h.Sound := by
  intro h found
  obtain ⟨a, placed, found⟩ := Option.bind_eq_some_iff.mp found
  exact (sound.authority a placed).host h found

theorem readFromRoot_sound {base : Option Url} (bases : ∀ b, base = some b → b.Sound) (text : List Glyph) :
    Sound (readFromRoot base text) := by
  unfold readFromRoot
  simp only
  split
  · exact buildFile_sound (by simp) (unslashed_read _ _ _)
  · split
    · exact buildFile_sound (by simp) (unslashed_read _ _ _)
    · split
      · exact buildFile_sound (by simp) (unslashed_read _ _ _)
      · exact buildFile_sound (bases _ rfl).host?_sound (unslashed_read _ _ _)

theorem readFile?_sound {base : Option Url} {text : List Glyph} {u : Url} (bases : ∀ b, base = some b → b.Sound)
    (read : readFile? base text = some u) : u.Sound := by
  unfold readFile? at read
  cases text with
  | nil =>
    cases base with
    | none =>
      cases read
      exact buildFile_sound (by simp) (by simp [Unslashed])
    | some b =>
      cases read
      exact (bases b rfl).withTail _ _
  | cons g rest =>
    simp only at read
    split at read
    · split at read
      · exact readFileHost?_sound read
      · cases read
        exact readFromRoot_sound bases _
    · cases base with
      | none =>
        cases read
        exact buildFile_sound (by simp) (unslashed_read _ _ _)
      | some b =>
        simp only at read
        split at read
        · cases read
          exact (bases b rfl).withTail _ _
        · split at read
          · cases read
            exact (bases b rfl).withTail _ _
          · split at read
            · cases read
              exact buildFile_sound (by simp) (unslashed_read _ _ _)
            · cases read
              exact buildFile_sound (bases b rfl).host?_sound (unslashed_readBehind _ _ _)

theorem readRelative?_sound {b u : Url} {text : List Glyph} (sound : b.Sound) (read : readRelative? b text = some u) :
    u.Sound := by
  unfold readRelative? at read
  cases text with
  | nil =>
    cases read
    exact sound.withTail _ _
  | cons g rest =>
    simp only at read
    split at read
    · cases read
      exact sound.withTail _ _
    · split at read
      · cases read
        exact sound.withTail _ _
      · split at read
        · split at read
          · exact readAuthority?_sound sound.scheme read
          · cases read
            exact build_sound sound.scheme sound.authority (unslashed_read _ _ _)
        · cases read
          exact build_sound sound.scheme sound.authority (unslashed_readBehind _ _ _)

theorem readPlain_sound {scheme : Text} {text : List Glyph} (named : IsScheme scheme)
    (unrooted : text.head?.any (·.char = '/') = false) : Sound (readPlain scheme text) := by
  refine ⟨named, by simp [readPlain], by simp [readPlain], ?_⟩
  rintro plain ⟨⟩
  refine ⟨rfl, fun begins => ?_⟩
  have first := escape_head begins
  simp only [Tail.ofText, chars, List.head?_map, List.head?_takeWhile] at first
  cases text with
  | nil => cases first
  | cons g rest =>
    have other : g.char ≠ '/' := by simpa using unrooted
    simp only [List.head?_cons, Option.filter_some] at first
    split at first
    · simp only [Option.filter_some] at first
      split at first
      · exact other (by simpa using first)
      · cases first
    · cases first

theorem readBehindScheme?_sound {base : Option Url} {scheme : Text} {text : List Glyph} {u : Url}
    (bases : ∀ b, base = some b → b.Sound) (named : IsScheme scheme)
    (read : readBehindScheme? base scheme text = some u) : u.Sound := by
  have kept (p : Url → Bool) : ∀ b, base.filter p = some b → b.Sound := by
    intro b found
    exact bases b (Option.eq_some_of_filter_eq_some found)
  unfold readBehindScheme? at read
  split at read
  · exact readFile?_sound (kept _) read
  · split at read
    · simp only at read
      split at read
      · rename_i b found
        split at read
        · exact readRelative?_sound (kept _ b found) read
        · exact readAuthority?_sound named read
      · exact readAuthority?_sound named read
    · split at read
      · split at read
        · exact readAuthority?_sound named read
        · cases read
          exact build_sound named (by simp) (unslashed_read _ _ _)
      · rename_i unrooted
        cases read
        exact readPlain_sound named (by simpa using unrooted)

theorem readWith?_sound {base : Option Url} {input : Text} {u : Url} (bases : ∀ b, base = some b → b.Sound)
    (read : readWith? base input = some u) : u.Sound := by
  unfold readWith? at read
  simp only at read
  split at read
  · rename_i scheme rest found
    exact readBehindScheme?_sound bases (scheme?_isScheme found) read
  · cases base with
    | none => cases read
    | some b =>
      simp only at read
      split at read
      · cases read
        exact (bases b rfl).withTail _ _
      · split at read
        · cases read
        · split at read
          · exact readFile?_sound bases read
          · exact readRelative?_sound (bases b rfl) read

theorem ofFilePath?_sound {path : Path} {u : Url} (converted : ofFilePath? path = some u) : u.Sound := by
  unfold ofFilePath? at converted
  split at converted
  · cases converted
    refine ⟨isScheme_file, ?_, ?_, by simp⟩
    · rintro a ⟨⟩
      exact ⟨by simp [fileAuthority, Unmarked], by simp [fileAuthority], fun _ => ⟨rfl, rfl⟩⟩
    · rintro parts ⟨⟩
      split
      · simp [Unslashed]
      · intro part member
        obtain ⟨name, _, rfl⟩ := List.mem_map.mp member
        exact not_mem_escape (by decide) (by decide) (by decide) name
  · cases converted

theorem Made.sound {u : Url} (made : Made u) : u.Sound := by
  induction made with
  | parsed read => exact readWith?_sound (by simp) read
  | joined _ read ih =>
    refine readWith?_sound ?_ read
    rintro b ⟨⟩
    exact ih
  | ofPath converted => exact ofFilePath?_sound converted

end ImportHooks.Url
