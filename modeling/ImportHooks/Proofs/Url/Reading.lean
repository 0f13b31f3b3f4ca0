import Mathlib.Data.List.TakeWhile
import ImportHooks.Proofs.Text.Parts
import ImportHooks.Proofs.Url.Escape
import ImportHooks.Url.Reader

namespace ImportHooks.Url
open Text

structure IsFit (c : Char) : Prop where
  visible : 0x20 < c.toNat
  kept : inPath c = false
  slashless : isSlash true c = false

theorem IsFit.ne {c d : Char} (fit : IsFit c) (marked : inPath d = true) : c ≠ d := by
  rintro rfl
  rw [fit.kept] at marked
  cases marked

def plainGlyphs (text : Text) : List Glyph := text.map fun c => ⟨c, false⟩

theorem chars_plainGlyphs (text : Text) : chars (plainGlyphs text) = text := by
  simp only [chars, plainGlyphs, List.map_map]
  exact List.map_id' text

theorem dropWhile_of_head {p : Char → Bool} {text : Text} (solid : ∀ c ∈ text, p c = false) :
    text.dropWhile p = text := by
  cases text with
  | nil => rfl
  | cons c rest => rw [List.dropWhile_cons_of_neg (by simp [solid c List.mem_cons_self])]

theorem glyphsBehind_solid {text : Text} (solid : ∀ c ∈ text, 0x20 < c.toNat) :
    glyphsBehind false text = plainGlyphs text := by
  induction text with
  | nil => rfl
  | cons c rest ih =>
    have unbroken : isBreak c = false := by
      have large := solid c List.mem_cons_self
      have apart : c ≠ '\t' ∧ c ≠ '\n' ∧ c ≠ '\r' := by
        refine ⟨?_, ?_, ?_⟩
        all_goals rintro rfl; revert large; decide
      simp [isBreak, apart]
    have tail := ih fun d member => solid d (List.mem_cons_of_mem _ member)
    simp only [glyphsBehind, unbroken, Bool.false_eq_true, if_false, tail]
    rfl

theorem glyphs_solid {text : Text} (solid : ∀ c ∈ text, 0x20 < c.toNat) : glyphs text = plainGlyphs text := by
  have inner : ∀ c ∈ text, decide (c.toNat ≤ 0x20) = false := fun c member => by simpa using solid c member
  have back : ∀ c ∈ text.reverse, decide (c.toNat ≤ 0x20) = false := fun c member => inner c (List.mem_reverse.mp member)
  simp only [glyphs, dropWhile_of_head inner, dropWhile_of_head back, List.reverse_reverse]
  exact glyphsBehind_solid solid

def slashed (parts : List Text) : Text := (Route.segments parts).text

theorem slashed_cons (part : Text) (parts : List Text) : slashed (part :: parts) = '/' :: (part ++ slashed parts) := rfl

theorem slashed_append (first rest : List Text) : slashed (first ++ rest) = slashed first ++ slashed rest :=
  List.flatMap_append

theorem cut_append {part : Text} (fit : ∀ c ∈ part, IsFit c) {rest first : List Glyph} {others : List (List Glyph)}
    (parted : cut true rest = first :: others) : cut true (plainGlyphs part ++ rest) = (plainGlyphs part ++ first) :: others := by
  induction part with
  | nil => exact parted
  | cons c text ih =>
    have tail := ih fun d member => fit d (List.mem_cons_of_mem _ member)
    have kept : isSlash true c = false := (fit c List.mem_cons_self).slashless
    simp only [plainGlyphs, List.map_cons, List.cons_append] at tail ⊢
    simp only [cut, kept, Bool.false_eq_true, if_false, tail]

theorem cut_slashed {parts : List Text} (fit : ∀ part ∈ parts, ∀ c ∈ part, IsFit c) :
    cut true (plainGlyphs (slashed parts)) = [] :: parts.map plainGlyphs := by
  induction parts with
  | nil => rfl
  | cons part parts ih =>
    have tail := ih fun other member => fit other (List.mem_cons_of_mem _ member)
    have split := cut_append (fit part List.mem_cons_self) tail
    rw [List.append_nil] at split
    have whole : plainGlyphs (slashed (part :: parts)) = ⟨'/', false⟩ :: (plainGlyphs part ++ plainGlyphs (slashed parts)) := by
      simp [plainGlyphs, slashed_cons]
    have slash : isSlash true '/' = true := by decide
    rw [whole]
    simp only [cut, slash, if_true, split, List.map_cons]

-- A segment that a reader takes as it is.
structure IsSegment (part : Text) : Prop where
  fit : ∀ c ∈ part, IsFit c
  notDot : isDot part = false
  notDoubleDot : isDoubleDot part = false

theorem begin_plain {part : Text} (fit : ∀ c ∈ part, IsFit c) (rest : Draft) :
    Draft.begin true ('/' :: rest) (plainGlyphs part) = ('/' :: rest, part) := by
  have clean : escape inPath part = part := escape_of_clean fun c member => (fit c member).kept
  have whole : (('/' :: rest : Draft), escape inPath (chars (plainGlyphs part))) = ('/' :: rest, part) := by
    rw [chars_plainGlyphs, clean]
  rw [← whole]
  cases rest with
  | cons c others => simp [Draft.begin]
  | nil =>
    rcases part with _ | ⟨a, _ | ⟨b, _ | ⟨c, others⟩⟩⟩
    all_goals simp [Draft.begin, plainGlyphs]

def Draft.IsUnderWay (d : Draft) : Prop := ∃ c rest, d = '/' :: c :: rest

theorem take_segment {part : Text} (segment : IsSegment part) (closed : Bool) {t : Url.Trail}
    (begun : Draft.IsUnderWay t.draft) : t.take true closed (plainGlyphs part) =
      { t with draft := (if closed then ['/'] else []) ++ part.reverse ++ t.draft } := by
  obtain ⟨draft, drive⟩ := t
  obtain ⟨c, rest, rfl⟩ := begun
  have several : ¬ ('/' :: c :: rest) = ['/'] := by simp
  simp only [Trail.take, begin_plain segment.fit, segment.notDot, segment.notDoubleDot, several, decide_false, Bool.and_false,
    Bool.false_and, Bool.false_eq_true, if_false]

theorem follow_segments {parts : List Text} (nonempty : parts ≠ []) (segments : ∀ part ∈ parts, IsSegment part)
    {t : Url.Trail} (begun : Draft.IsUnderWay t.draft) :
    (t.follow true (parts.map plainGlyphs)).draft = (join '/' parts).reverse ++ t.draft := by
  induction parts generalizing t with
  | nil => exact absurd rfl nonempty
  | cons part parts ih =>
    have segment := segments part List.mem_cons_self
    cases parts with
    | nil =>
      simp only [List.map_cons, List.map_nil, Trail.follow, take_segment segment false begun, join]
      rfl
    | cons next others =>
      have step := take_segment segment true begun
      have onward : Draft.IsUnderWay (t.take true true (plainGlyphs part)).draft := by
        obtain ⟨c, rest, begun⟩ := begun
        rw [step]
        cases turned : part.reverse with
        | nil => exact ⟨'/', c :: rest, by simp [begun]⟩
        | cons d text => exact ⟨d, text ++ t.draft, by simp⟩
      have later := ih (List.cons_ne_nil _ _) (fun other member => segments other (List.mem_cons_of_mem _ member)) onward
      simp only [List.map_cons, Trail.follow] at later ⊢
      rw [later, step]
      simp [join]

theorem mem_slashed {parts : List Text} {c : Char} (inside : c ∈ slashed parts) : c = '/' ∨ ∃ part ∈ parts, c ∈ part := by
  simp only [slashed, Route.text, List.mem_flatMap, List.mem_cons] at inside
  obtain ⟨part, member, rfl | there⟩ := inside
  · exact .inl rfl
  · exact .inr ⟨part, member, there⟩

theorem tail_plain {text : Text} (unmarked : ∀ c ∈ text, c ≠ '?' ∧ c ≠ '#') :
    Tail.ofText (plainGlyphs text) = ⟨plainGlyphs text, none, none⟩ := by
  have without (mark : Char) (other : ∀ c ∈ text, c ≠ mark) : ∀ g ∈ plainGlyphs text, decide (g.char ≠ mark) = true := by
    intro g member
    obtain ⟨c, inside, rfl⟩ := List.mem_map.mp member
    simpa using other c inside
  have noQuery := without '?' fun c inside => (unmarked c inside).1
  have noFragment := without '#' fun c inside => (unmarked c inside).2
  have front := List.takeWhile_eq_self_iff.mpr noFragment
  have behind := List.dropWhile_eq_nil_iff.mpr noFragment
  simp only [Tail.ofText, front, behind, List.takeWhile_eq_self_iff.mpr noQuery, List.dropWhile_eq_nil_iff.mpr noQuery]
  rfl

-- A reader of files gives back the segments it finds, unless the first of several is empty.
theorem read_slashed {parts : List Text} (nonempty : parts ≠ []) (segments : ∀ part ∈ parts, IsSegment part)
    (begins : (join '/' parts).head? ≠ some '/') : (read fileScheme ['/'] (plainGlyphs (slashed parts))).parts = parts := by
  have special : isSpecial fileScheme = true := by decide
  have cutted := cut_slashed fun part member => (segments part member).fit
  obtain ⟨part, others, rfl⟩ := List.exists_cons_of_ne_nil nonempty
  have opened : (Trail.mk ['/'] false).take true true [] = ⟨['/', '/'], false⟩ := rfl
  have followed := follow_segments nonempty segments (t := ⟨['/', '/'], false⟩) ⟨'/', [], rfl⟩
  have unslashed : ∀ part' ∈ part :: others, '/' ∉ part' := by
    intro part' member slash
    exact absurd ((segments part' member).fit '/' slash).slashless (by decide)
  have path : (join '/' (part :: others)).dropWhile (· = '/') = join '/' (part :: others) := by
    cases text : join '/' (part :: others) with
    | nil => rfl
    | cons c rest =>
      have other : c ≠ '/' := by simpa [text] using begins
      rw [List.dropWhile_cons_of_neg (by simpa using other)]
  simp only [read, special, cutted, decide_true, List.map_cons, Trail.follow, opened] at followed ⊢
  simp only [followed, List.reverse_append, List.reverse_reverse, List.reverse_cons, List.reverse_nil, List.nil_append,
    List.cons_append, if_true]
  simp only [List.dropWhile_cons, decide_true, if_true, path, partsOf]
  exact split_join nonempty unslashed

def fileUrl (parts : List Text) : Url := ⟨fileScheme, some (fileAuthority none), .segments parts, none, none⟩

theorem fileUrl_text (parts : List Text) : (fileUrl parts).text = "file://".toList ++ slashed parts := by
  simp [fileUrl, Url.text, shield, Route.text, fileAuthority, Authority.text, fileScheme, slashed]

theorem readFileHost?_rooted {text : Text} (unmarked : ∀ c ∈ text, c ≠ '?' ∧ c ≠ '#') :
    readFileHost? (plainGlyphs ('/' :: text)) =
      some (fileUrl (read fileScheme ['/'] (plainGlyphs ('/' :: text))).parts) := by
  have path : Tail.ofText (plainGlyphs ('/' :: text)) = ⟨plainGlyphs ('/' :: text), none, none⟩ := by
    refine tail_plain fun c inside => ?_
    rcases List.mem_cons.mp inside with rfl | later
    · decide
    · exact unmarked c later
  have stays : isSlash true '/' = true := by decide
  simp only [plainGlyphs, List.map_cons] at path ⊢
  simp only [readFileHost?, List.takeWhile_cons, List.dropWhile_cons, stays, Bool.true_or, Bool.not_true,
    Bool.false_eq_true, if_false, path]
  rfl

theorem parse?_file {text : Text} (solid : ∀ c ∈ text, 0x20 < c.toNat) :
    parse? ("file://".toList ++ text) = readFileHost? (plainGlyphs text) := by
  have whole : ∀ c ∈ "file://".toList ++ text, 0x20 < c.toNat := by
    intro c inside
    rcases List.mem_append.mp inside with front | behind
    · have tried : "file://".toList.all (0x20 < ·.toNat) = true := by decide
      simpa using List.all_eq_true.mp tried c front
    · exact solid c behind
  have parted : scheme? (plainGlyphs ("file://".toList ++ text)) =
      some (fileScheme, plainGlyphs ('/' :: '/' :: text)) := rfl
  simp only [parse?, readWith?, glyphs_solid whole, parted]
  rfl

theorem parse?_slashed {parts : List Text} (nonempty : parts ≠ []) (fit : ∀ part ∈ parts, ∀ c ∈ part, IsFit c) :
    parse? (fileUrl parts).text = some (fileUrl (read fileScheme ['/'] (plainGlyphs (slashed parts))).parts) := by
  have either : ∀ c ∈ slashed parts, c = '/' ∨ IsFit c := by
    intro c inside
    rcases mem_slashed inside with slash | ⟨part, member, there⟩
    · exact .inl slash
    · exact .inr (fit part member c there)
  have solid : ∀ c ∈ slashed parts, 0x20 < c.toNat := by
    intro c inside
    rcases either c inside with rfl | fit
    · decide
    · exact fit.visible
  have unmarked : ∀ c ∈ slashed parts, c ≠ '?' ∧ c ≠ '#' := by
    intro c inside
    rcases either c inside with rfl | fit
    · decide
    · exact ⟨fit.ne (by decide), fit.ne (by decide)⟩
  obtain ⟨part, others, rfl⟩ := List.exists_cons_of_ne_nil nonempty
  rw [fileUrl_text, parse?_file solid]
  exact readFileHost?_rooted fun c inside => unmarked c (List.mem_cons_of_mem _ inside)

end ImportHooks.Url
