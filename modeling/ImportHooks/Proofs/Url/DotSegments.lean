import ImportHooks.Proofs.Url.FilePath

namespace ImportHooks.Url
open Text

def Draft.Consists (P : Text → Prop) (d : Draft) : Prop := ∀ part ∈ split '/' d, P part.reverse

variable {P : Text → Prop}

theorem consists_parted {left right : Draft} :
    Draft.Consists P (left ++ '/' :: right) ↔ Draft.Consists P left ∧ Draft.Consists P right := by
  unfold Draft.Consists
  rw [split_append_separator]
  exact List.forall_mem_append

theorem consists_whole {part : Draft} (slashless : '/' ∉ part) : Draft.Consists P part ↔ P part.reverse := by
  unfold Draft.Consists
  rw [split_of_not_mem slashless]
  exact List.forall_mem_singleton

theorem consists_slash {d : Draft} : Draft.Consists P ('/' :: d) ↔ P [] ∧ Draft.Consists P d :=
  (@consists_parted P [] d).trans (and_congr_left' (consists_whole List.not_mem_nil))

theorem Draft.Consists.slashed {d : Draft} (consists : d.Consists P) (empty : P []) : (Draft.slashed d).Consists P := by
  unfold Draft.slashed
  split
  · exact consists
  · exact consists_slash.mpr ⟨empty, consists⟩

theorem Draft.Consists.dropSegment {d : Draft} (consists : d.Consists P) (empty : P []) :
    Draft.Consists P (List.dropWhile (· ≠ '/') d) := by
  have whole := List.takeWhile_append_dropWhile (p := fun c => decide (c ≠ '/')) (l := d)
  cases dropped : List.dropWhile (fun c => decide (c ≠ '/')) d with
  | nil => exact (consists_whole List.not_mem_nil).mpr empty
  | cons c rest =>
    have slash : c = '/' := by
      have ended := List.head?_dropWhile_not (fun c => decide (c ≠ '/')) d
      rw [dropped] at ended
      simpa using ended
    rw [dropped, slash] at whole
    rw [← whole] at consists
    rw [slash]
    exact consists_slash.mpr ⟨empty, (consists_parted.mp consists).2⟩

theorem Draft.Consists.climb {d : Draft} (consists : d.Consists P) (empty : P []) : (Draft.climb true d).Consists P := by
  have shortened {d : Draft} (consists : d.Consists P) : (Draft.shorten true d).Consists P := by
    unfold Draft.shorten
    split
    · exact consists
    · exact consists.dropSegment empty
  unfold Draft.climb
  refine shortened ?_
  split
  · rename_i begins
    cases d with
    | nil => exact consists
    | cons c rest =>
      simp only [List.head?_cons, Option.some.injEq, Bool.and_eq_true, decide_eq_true_eq] at begins
      rw [begins.1] at consists
      exact (consists_slash.mp consists).2
  · exact consists

theorem slashed_begins (d : Draft) : ∃ rest, d.slashed = '/' :: rest := by
  cases d with
  | nil => exact ⟨[], rfl⟩
  | cons c rest =>
    by_cases slash : c = '/'
    · exact ⟨rest, by simp [Draft.slashed, slash]⟩
    · exact ⟨c :: rest, by simp [Draft.slashed, slash]⟩

-- Segments that may stand in a path for what they are: all that are no dot segments.
structure Admitted (P : Text → Prop) : Prop where
  empty : P []
  drive : ∀ letter : Char, letter.isAlpha = true → P [letter, ':']

theorem Draft.Consists.closedBy {d : Draft} (consists : d.Consists P) (empty : P []) (closed : Bool) :
    Draft.Consists P ((if closed then ['/'] else []) ++ d) := by
  cases closed with
  | false => exact consists
  | true => exact consists_slash.mpr ⟨empty, consists⟩

theorem closed_begins {closed : Bool} (isClosed : closed = true) (d : Draft) :
    ∃ rest, (if closed then ['/'] else []) ++ d = '/' :: rest := ⟨d, by rw [if_pos isClosed]; rfl⟩

theorem letter_of_isDriveLetter {part : Text} (named : isDriveLetter part = true) :
    ∃ letter mark, part = [letter, mark] ∧ letter.isAlpha = true := by
  unfold isDriveLetter at named
  split at named
  · rename_i letter mark
    exact ⟨letter, mark, rfl, (Bool.and_eq_true _ _ ▸ named).1⟩
  · cases named

theorem ne_of_isAlpha {letter other : Char} (alpha : letter.isAlpha = true) (mark : other.isAlpha = false) :
    letter ≠ other := by
  rintro rfl
  rw [alpha] at mark
  cases mark

theorem take_consists (admitted : Admitted P) {part : Text} (fit : ∀ c ∈ part, IsFit c)
    (holds : isDoubleDot part = false → P part) {t : Url.Trail} (begins : ∃ rest, t.draft = '/' :: rest)
    (consists : t.draft.Consists P) (closed : Bool) :
    (t.take true closed (plainGlyphs part)).draft.Consists P ∧
      (closed = true → ∃ rest, (t.take true closed (plainGlyphs part)).draft = '/' :: rest) := by
  obtain ⟨draft, drive⟩ := t
  obtain ⟨rest, rfl⟩ := begins
  have slashless : '/' ∉ part := fun inside => absurd (fit '/' inside).slashless (by decide)
  simp only [Trail.take, begin_plain fit]
  cases up : isDoubleDot part with
  | true =>
    have above := consists.climb admitted.empty
    cases closed with
    | false => exact ⟨above, fun closes => absurd closes Bool.false_ne_true⟩
    | true => exact ⟨above.slashed admitted.empty, fun _ => slashed_begins _⟩
  | false =>
    simp only [Bool.false_eq_true, if_false]
    split
    · exact ⟨consists.slashed admitted.empty, fun _ => slashed_begins ('/' :: rest)⟩
    · split
      · -- a drive is written with a colon, whatever mark it came with
        rename_i named
        simp only [Bool.and_eq_true] at named
        obtain ⟨letter, mark, rfl, alpha⟩ := letter_of_isDriveLetter named.2
        have apart : letter ≠ '/' := ne_of_isAlpha alpha rfl
        have behind : Draft.Consists P ([':', letter] ++ '/' :: rest) := by
          refine consists_parted.mpr ⟨?_, (consists_slash.mp consists).2⟩
          rw [consists_whole (by simp [Ne.symm apart])]
          exact admitted.drive letter alpha
        rw [List.append_assoc]
        exact ⟨behind.closedBy admitted.empty closed, fun isClosed => closed_begins isClosed _⟩
      · have behind : Draft.Consists P (part.reverse ++ '/' :: rest) := by
          refine consists_parted.mpr ⟨?_, (consists_slash.mp consists).2⟩
          rw [consists_whole (by simpa using slashless), List.reverse_reverse]
          exact holds up
        rw [List.append_assoc]
        exact ⟨behind.closedBy admitted.empty closed, fun isClosed => closed_begins isClosed _⟩

theorem follow_consists (admitted : Admitted P) {parts : List Text} (fit : ∀ part ∈ parts, ∀ c ∈ part, IsFit c)
    (holds : ∀ part ∈ parts, isDoubleDot part = false → P part) {t : Url.Trail} (begins : ∃ rest, t.draft = '/' :: rest)
    (consists : t.draft.Consists P) : (t.follow true (parts.map plainGlyphs)).draft.Consists P := by
  induction parts generalizing t with
  | nil => exact consists
  | cons part parts ih =>
    have taken := take_consists admitted (fit part List.mem_cons_self) (holds part List.mem_cons_self) begins consists
    cases parts with
    | nil => exact (taken false).1
    | cons next others =>
      obtain ⟨kept, onward⟩ := taken true
      exact ih (fun other member => fit other (List.mem_cons_of_mem _ member))
        (fun other member => holds other (List.mem_cons_of_mem _ member)) (onward rfl) kept

theorem mem_split_dropSlashes {text part : Text} (member : part ∈ split '/' (text.dropWhile (· = '/'))) :
    part ∈ split '/' text := by
  induction text with
  | nil => exact member
  | cons c rest ih =>
    by_cases slash : c = '/'
    · rw [List.dropWhile_cons_of_pos (by simpa using slash)] at member
      rw [slash]
      exact List.mem_cons_of_mem _ (ih member)
    · rwa [List.dropWhile_cons_of_neg (by simpa using slash)] at member

theorem read_ne_nil (start : Draft) (text : List Glyph) : (read fileScheme start text).parts ≠ [] := by
  simp only [read, decide_true, if_true, partsOf]
  exact split_ne_nil _ _

theorem read_consists (admitted : Admitted P) {parts : List Text} (fit : ∀ part ∈ parts, ∀ c ∈ part, IsFit c)
    (holds : ∀ part ∈ parts, isDoubleDot part = false → P part) :
    ∀ part ∈ (read fileScheme ['/'] (plainGlyphs (slashed parts))).parts, P part := by
  have special : isSpecial fileScheme = true := by decide
  have opening : Draft.Consists P ['/'] := consists_slash.mpr ⟨admitted.empty, (consists_whole List.not_mem_nil).mpr admitted.empty⟩
  -- the slash in front of the first segment is cut off as an empty segment of its own
  have followed : (Trail.follow true ⟨['/'], false⟩ (([] :: parts).map plainGlyphs)).draft.Consists P := by
    refine follow_consists admitted ?_ ?_ ⟨[], rfl⟩ opening
    · intro part member
      rcases List.mem_cons.mp member with rfl | there
      · exact fun c inside => nomatch inside
      · exact fit part there
    · intro part member up
      rcases List.mem_cons.mp member with rfl | there
      · exact admitted.empty
      · exact holds part there up
  intro part member
  simp only [read, special, cut_slashed fit, decide_true, if_true, partsOf] at member
  have inside := mem_split_dropSlashes member
  rw [split_reverse, List.mem_reverse] at inside
  obtain ⟨turned, there, rfl⟩ := List.mem_map.mp inside
  exact followed turned there

structure StaysDown (part : Text) : Prop where
  isName : IsName part
  down : nameOf part ≠ ['.', '.']

theorem staysDown_of_unescape {part name : Text} (decodes : unescape part = utf8 name) (slashless : '/' ∉ name)
    (down : name ≠ ['.', '.']) : StaysDown part :=
  ⟨isName_of_unescape decodes slashless, nameOf_of_unescape decodes ▸ down⟩

theorem admitted_staysDown : Admitted StaysDown := by
  refine ⟨@staysDown_of_unescape [] [] rfl List.not_mem_nil (by decide), fun letter alpha => ?_⟩
  have plain : letter ≠ '%' := ne_of_isAlpha alpha rfl
  have other : letter ≠ '/' := ne_of_isAlpha alpha rfl
  have decodes : unescape [letter, ':'] = utf8 [letter, ':'] := by
    rw [unescape_cons plain, unescape_cons (by decide), unescape, List.append_nil, ← utf8_append]
    rfl
  refine staysDown_of_unescape decodes ?_ ?_
  · simp [Ne.symm other]
  · simp

-- Whatever path a reader makes of the text of a path's URL, it does not climb.
theorem level_of_parse? {p path : Path} {u : Url} (converted : ofFilePath? p = some u)
    (read : (parse? u.text).bind filePath? = some path) : ['.', '.'] ∉ path.names := by
  rw [ofFilePath?_eq] at converted
  split at converted
  · cases converted
    have nonempty : (written p).map (escape inFileName) ≠ [] := by simpa using written_ne_nil p
    rw [parse?_slashed nonempty (written_fit p), Option.bind_some] at read
    have holds : ∀ part ∈ (written p).map (escape inFileName), isDoubleDot part = false → StaysDown part := by
      intro part member level
      obtain ⟨name, inside, rfl⟩ := List.mem_map.mp member
      refine staysDown_of_unescape (unescape_escape (by decide) name) (written_slashless inside) ?_
      rintro rfl
      exact absurd level (by decide)
    have stays := read_consists admitted_staysDown (written_fit p) holds
    have left := read_ne_nil ['/'] (plainGlyphs (slashed ((written p).map (escape inFileName))))
    generalize (Url.read fileScheme ['/'] (plainGlyphs (slashed ((written p).map (escape inFileName))))).parts = parts at *
    obtain ⟨other, converted, components⟩ := filePath?_fileUrl left fun part member => (stays part member).isName
    rw [read, Option.some.injEq] at converted
    subst converted
    intro climbs
    rw [show path.names = _ from congrArg Prod.snd components] at climbs
    obtain ⟨part, member, up⟩ := List.mem_map.mp (List.mem_filter.mp climbs).1
    exact (stays part member).down up
  · cases converted

end ImportHooks.Url
