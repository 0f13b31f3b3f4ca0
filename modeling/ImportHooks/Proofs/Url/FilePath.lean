import ImportHooks.Proofs.Path.Names
import ImportHooks.Proofs.Text.Utf8
import ImportHooks.Proofs.Url.Made
import ImportHooks.Proofs.Url.Reading

namespace ImportHooks.Url
open Text

theorem escape_fit {name : Text} {c : Char} (inside : c ∈ escape inFileName name) : IsFit c := by
  rcases mem_escape inside with ⟨_, kept⟩ | rfl | ⟨n, small, rfl⟩
  · simp only [inFileName, Bool.or_eq_false_iff] at kept
    obtain ⟨path, slashes⟩ := kept
    have visible : 0x20 < c.toNat := by
      have clean := path
      simp only [inPath, inFragment, controls, Bool.or_eq_false_iff, decide_eq_false_iff_not] at clean
      have blank : c ≠ ' ' := by
        rintro rfl
        exact absurd clean.1.2 (by decide)
      have other : c.toNat ≠ 0x20 := fun same => blank (Char.toNat_inj.mp same)
      omega
    refine ⟨visible, path, ?_⟩
    have apart : c ≠ '/' ∧ c ≠ '\\' := by
      constructor
      · rintro rfl
        exact absurd slashes (by decide)
      · rintro rfl
        exact absurd slashes (by decide)
    simp [isSlash, apart]
  · exact ⟨by decide, by decide, by decide⟩
  · have all : ∀ n ∈ List.range 16, 0x20 < (upperHex n).toNat ∧ inPath (upperHex n) = false ∧
        isSlash true (upperHex n) = false := by decide
    obtain ⟨visible, kept, slashless⟩ := all n (List.mem_range.mpr small)
    exact ⟨visible, kept, slashless⟩

theorem toLower_beyond {c : Char} (beyond : 128 ≤ c.toNat) : c.toLower = c := by
  have kept : ¬ (c.val ≥ 65 ∧ c.val ≤ 90) := by
    rintro ⟨-, most⟩
    rw [UInt32.le_iff_toNat_le] at most
    exact absurd (Nat.le_trans beyond most) (by decide)
  exact dif_neg kept

def casings : Text → List Text
  | [] => [[]]
  | c :: rest => (if c = 'e' then ['e', 'E'] else [c]).flatMap fun first => (casings rest).map (first :: ·)

theorem casing_of_toLower {c : Char} (caseless : (c.toLower = 'e' || !c.toLower.isLower) = true) :
    c ∈ if c.toLower = 'e' then ['e', 'E'] else [c.toLower] := by
  by_cases ascii : c.toNat < 128
  · have tried := of_ascii (p := fun c => !(c.toLower = 'e' || !c.toLower.isLower) ||
      (if c.toLower = 'e' then ['e', 'E'] else [c.toLower]).contains c) (by decide +kernel) ascii
    simpa only [caseless, Bool.not_true, Bool.false_or, List.contains_iff_mem] using tried
  · rw [toLower_beyond (Nat.le_of_not_lt ascii)]
    split
    · rename_i letter
      exact letter ▸ List.mem_cons_self
    · exact List.mem_singleton.mpr rfl

theorem mem_casings {part : Text} (caseless : (part.map Char.toLower).all (fun c => c = 'e' || !c.isLower) = true) :
    part ∈ casings (part.map Char.toLower) := by
  induction part with
  | nil => exact List.mem_singleton.mpr rfl
  | cons c rest ih =>
    simp only [List.map_cons, List.all_cons, Bool.and_eq_true] at caseless
    have first := casing_of_toLower caseless.1
    have tail := ih caseless.2
    exact List.mem_flatMap.mpr ⟨c, first, List.mem_map.mpr ⟨rest, tail, rfl⟩⟩

-- The other spellings of the two dot segments escape a dot, which a file name is never written with.
theorem unescape_of_isDot {part : Text} (dot : isDot part = true) : unescape part = utf8 ['.'] := by
  have spelled := of_decide_eq_true dot
  have all : ∀ lower ∈ [".".toList, "%2e".toList], lower.all (fun c => c = 'e' || !c.isLower) = true ∧
      ∀ text ∈ casings lower, unescape text = utf8 ['.'] := by decide +kernel
  obtain ⟨caseless, decoded⟩ := all _ spelled
  exact decoded part (mem_casings caseless)

theorem unescape_of_isDoubleDot {part : Text} (dots : isDoubleDot part = true) : unescape part = utf8 ['.', '.'] := by
  have spelled := of_decide_eq_true dots
  have all : ∀ lower ∈ ["..".toList, ".%2e".toList, "%2e.".toList, "%2e%2e".toList],
      lower.all (fun c => c = 'e' || !c.isLower) = true ∧ ∀ text ∈ casings lower, unescape text = utf8 ['.', '.'] := by
    decide +kernel
  obtain ⟨caseless, decoded⟩ := all _ spelled
  exact decoded part (mem_casings caseless)

theorem isSegment_escape {name : Text} (named : Path.isIdle name = false) (down : name ≠ ['.', '.']) :
    IsSegment (escape inFileName name) := by
  have decoded : unescape (escape inFileName name) = utf8 name := unescape_escape (by decide) name
  simp only [Path.isIdle, Bool.or_eq_false_iff, decide_eq_false_iff_not] at named
  refine ⟨fun c inside => escape_fit inside, ?_, ?_⟩
  · rw [Bool.eq_false_iff]
    intro dot
    exact named.2 (utf8_injective (decoded.symm.trans (unescape_of_isDot dot)))
  · rw [Bool.eq_false_iff]
    intro dots
    exact down (utf8_injective (decoded.symm.trans (unescape_of_isDoubleDot dots)))

-- The names that the URL of a path is made of; the root has an empty one.
def written (p : Path) : List Text := if p.names.isEmpty then [[]] else p.names

theorem ofFilePath?_eq (p : Path) :
    ofFilePath? p = if p.isAbsolute then some (fileUrl ((written p).map (escape inFileName))) else none := by
  unfold ofFilePath? written
  split
  · cases p.names <;> rfl
  · rfl

theorem written_ne_nil (p : Path) : written p ≠ [] := by
  unfold written
  split
  · exact List.cons_ne_nil _ _
  · rename_i several
    exact fun none => several (by rw [none]; rfl)

theorem names_named {p : Path} {name : Text} (member : name ∈ p.names) : Path.isIdle name = false ∧ '/' ∉ name := by
  obtain ⟨parted, named⟩ := List.mem_filter.mp member
  exact ⟨by simpa using named, separator_not_mem parted⟩

theorem mem_written {p : Path} {name : Text} (member : name ∈ written p) :
    (name = [] ∧ written p = [[]]) ∨ name ∈ p.names := by
  unfold written at member ⊢
  split at member
  · rename_i rootless
    exact .inl ⟨List.mem_singleton.mp member, by simp [rootless]⟩
  · exact .inr member

theorem written_slashless {p : Path} {name : Text} (member : name ∈ written p) : '/' ∉ name := by
  rcases mem_written member with ⟨rfl, -⟩ | named
  · exact List.not_mem_nil
  · exact (names_named named).2

theorem filter_written (p : Path) : (written p).filter (!Path.isIdle ·) = p.names := by
  unfold written
  split
  · rename_i none
    rw [List.isEmpty_iff.mp none]
    rfl
  · exact List.filter_eq_self.mpr fun name member => by simp [(names_named member).1]

theorem slashed_eq_join {parts : List Text} (nonempty : parts ≠ []) : slashed parts = '/' :: join '/' parts := by
  induction parts with
  | nil => exact absurd rfl nonempty
  | cons part parts ih =>
    cases parts with
    | nil => simp [slashed, Route.text, join]
    | cons next others =>
      rw [slashed_cons, ih (List.cons_ne_nil _ _)]
      rfl

theorem written_fit (p : Path) : ∀ part ∈ (written p).map (escape inFileName), ∀ c ∈ part, IsFit c := by
  intro part member c inside
  obtain ⟨name, _, rfl⟩ := List.mem_map.mp member
  exact escape_fit inside

theorem join_written_begins (p : Path) : (join '/' ((written p).map (escape inFileName))).head? ≠ some '/' := by
  obtain ⟨name, others, parted⟩ := List.exists_cons_of_ne_nil (written_ne_nil p)
  have member : name ∈ written p := parted ▸ List.mem_cons_self
  rcases mem_written member with ⟨-, root⟩ | named
  · rw [root]
    simp [escape, join]
  · have nonempty : escape inFileName name ≠ [] := by
      have given := (names_named named).1
      simp only [Path.isIdle, Bool.or_eq_false_iff, decide_eq_false_iff_not] at given
      exact escape_ne_nil given.1
    obtain ⟨c, text, escaped⟩ := List.exists_cons_of_ne_nil nonempty
    have begins : (join '/' ((written p).map (escape inFileName))).head? = some c := by
      rw [parted, List.map_cons, escaped]
      cases others <;> rfl
    have fit : IsFit c := escape_fit (escaped ▸ List.mem_cons_self)
    rw [begins]
    rintro ⟨⟩
    exact absurd fit.slashless (by decide)

-- The URL of a path without `..` is read back as it is.
theorem parse?_ofFilePath? {p : Path} {u : Url} (converted : ofFilePath? p = some u) (down : ['.', '.'] ∉ p.names) :
    parse? u.text = some u := by
  rw [ofFilePath?_eq] at converted
  split at converted
  · cases converted
    have nonempty : (written p).map (escape inFileName) ≠ [] := by simpa using written_ne_nil p
    rw [parse?_slashed nonempty (written_fit p), read_slashed nonempty ?_ (join_written_begins p)]
    intro part member
    obtain ⟨name, inside, rfl⟩ := List.mem_map.mp member
    rcases mem_written inside with ⟨rfl, -⟩ | named
    · exact ⟨by simp [escape], by decide, by decide⟩
    · refine isSegment_escape (names_named named).1 ?_
      rintro rfl
      exact down named
  · cases converted

theorem text_extended {text ending : Text} {u : Url} (unparted : '/' ∉ ending)
    (solid : ∀ front, Path.isIdle (front ++ ending) = false) (plain : escape inFileName ending = ending)
    (converted : ofFilePath? ⟨text ++ ending⟩ = some u) : ending <:+ u.text := by
  rw [ofFilePath?_eq] at converted
  split at converted
  · cases converted
    obtain ⟨earlier, last, names⟩ := Path.names_extended unparted solid text
    have named : written ⟨text ++ ending⟩ = earlier ++ [last ++ ending] := by simp [written, names]
    rw [fileUrl_text, named, List.map_append, List.map_singleton, escape_append, plain, slashed_append]
    refine ⟨"file://".toList ++ (slashed (earlier.map (escape inFileName)) ++ '/' :: escape inFileName last), ?_⟩
    simp [slashed, Route.text]
  · cases converted

def nameOf (part : Text) : Text := (ofUtf8? (unescape part)).getD []

structure IsName (part : Text) : Prop where
  decodes : unescape part = utf8 (nameOf part)
  slashless : '/' ∉ nameOf part

theorem nameOf_of_unescape {part name : Text} (decodes : unescape part = utf8 name) : nameOf part = name := by
  rw [nameOf, decodes, ofUtf8?_utf8]
  rfl

theorem nameOf_escape (name : Text) : nameOf (escape inFileName name) = name :=
  nameOf_of_unescape (unescape_escape (by decide) name)

theorem isName_of_unescape {part name : Text} (decodes : unescape part = utf8 name) (slashless : '/' ∉ name) :
    IsName part := by
  have same := nameOf_of_unescape decodes
  exact ⟨same.symm ▸ decodes, same.symm ▸ slashless⟩

theorem components_slashed {names : List Text} (nonempty : names ≠ []) (slashless : ∀ name ∈ names, '/' ∉ name)
    {ending : Text} (ended : ending = [] ∨ ending = ['/']) :
    (Path.mk (slashed names ++ ending)).components = (.root, names.filter (!Path.isIdle ·)) := by
  have parts := split_join nonempty slashless
  have rooted (text : Text) : (Path.mk ('/' :: text)).components = (.root, (split '/' text).filter (!Path.isIdle ·)) := rfl
  rw [slashed_eq_join nonempty, List.cons_append, rooted]
  rcases ended with rfl | rfl
  · rw [List.append_nil, parts]
  · rw [split_append_separator, parts, List.filter_append]
    exact congrArg _ (List.append_nil _)

theorem unescape_names {parts : List Text} (named : ∀ part ∈ parts, IsName part) :
    parts.flatMap (fun part => 0x2F :: unescape part) = utf8 (slashed (parts.map nameOf)) := by
  induction parts with
  | nil => rfl
  | cons part parts ih =>
    have tail := ih fun other member => named other (List.mem_cons_of_mem _ member)
    have slash (name text : Text) : utf8 ('/' :: (name ++ text)) = 0x2F :: (utf8 name ++ utf8 text) := by
      rw [← utf8_append]
      rfl
    rw [List.flatMap_cons, tail, (named part List.mem_cons_self).decodes, List.map_cons, slashed_cons, slash,
      List.cons_append]

theorem pathBytes_names {parts : List Text} (named : ∀ part ∈ parts, IsName part) :
    ∃ ending, (ending = [] ∨ ending = ['/']) ∧ pathBytes parts = utf8 (slashed (parts.map nameOf) ++ ending) := by
  unfold pathBytes
  rw [unescape_names named]
  simp only
  split
  · refine ⟨['/'], .inr rfl, ?_⟩
    rw [utf8_append]
    rfl
  · exact ⟨[], .inl rfl, by rw [List.append_nil]⟩

theorem filePath?_fileUrl {parts : List Text} (nonempty : parts ≠ []) (named : ∀ part ∈ parts, IsName part) :
    ∃ path, (fileUrl parts).filePath? = some path ∧
      path.components = (.root, (parts.map nameOf).filter (!Path.isIdle ·)) := by
  obtain ⟨ending, ended, bytes⟩ := pathBytes_names named
  have slashless : ∀ name ∈ parts.map nameOf, '/' ∉ name := by
    intro name member
    obtain ⟨part, inside, rfl⟩ := List.mem_map.mp member
    exact (named part inside).slashless
  refine ⟨⟨slashed (parts.map nameOf) ++ ending⟩, ?_, components_slashed (by simpa using nonempty) slashless ended⟩
  have given : parts.isEmpty = false := by simpa using nonempty
  simp only [filePath?, fileUrl, host?, fileAuthority, given, bytes, ofUtf8?_utf8]
  rfl

theorem isName_written {p : Path} : ∀ part ∈ (written p).map (escape inFileName), IsName part := by
  intro part member
  obtain ⟨name, inside, rfl⟩ := List.mem_map.mp member
  exact isName_of_unescape (unescape_escape (by decide) name) (written_slashless inside)

theorem nameOf_written (p : Path) : ((written p).map (escape inFileName)).map nameOf = written p := by
  rw [List.map_map]
  exact (List.map_congr_left fun name _ => nameOf_escape name).trans (List.map_id _)

theorem filePath?_ofFilePath? {p : Path} {u : Url} (converted : ofFilePath? p = some u) :
    ∃ path, u.filePath? = some path ∧ path.components = p.components := by
  rw [ofFilePath?_eq] at converted
  split at converted
  · rename_i absolute
    cases converted
    have rooted : p.anchor = .root := by simpa [Path.isAbsolute] using absolute
    obtain ⟨path, converted, components⟩ := filePath?_fileUrl (by simpa using written_ne_nil p) isName_written
    exact ⟨path, converted, by rw [components, nameOf_written, filter_written, Path.components, rooted]⟩
  · cases converted

theorem endsInDrive_append {bytes : List UInt8} {last : UInt8} (plain : last ≠ 0x3A ∧ last ≠ 0x7C) :
    endsInDrive (bytes ++ [last]) = false := by
  unfold endsInDrive
  rw [List.reverse_append, List.reverse_singleton, List.singleton_append]
  split
  · rename_i mark letter first rest same
    obtain ⟨rfl, -⟩ := List.cons.inj same
    simp [plain]
  · rfl

theorem filePath?_ofFilePath?_normal {p : Path} {u : Url} (converted : ofFilePath? p = some u) (named : p.names ≠ [])
    {front : List UInt8} {last : UInt8} (ended : utf8 p.normal.text = front ++ [last])
    (plain : last ≠ 0x3A ∧ last ≠ 0x7C) : u.filePath? = some p.normal := by
  rw [ofFilePath?_eq] at converted
  split at converted
  · cases converted
    have names : written p = p.names := if_neg (by simpa using named)
    have bytes : pathBytes ((written p).map (escape inFileName)) = utf8 p.normal.text := by
      unfold pathBytes
      rw [unescape_names isName_written, nameOf_written, names, slashed_eq_join named]
      show (if endsInDrive (utf8 p.normal.text) then _ else utf8 p.normal.text) = _
      rw [ended, endsInDrive_append plain]
      rfl
    have given : ((written p).map (escape inFileName)).isEmpty = false := by simpa using written_ne_nil p
    simp only [filePath?, fileUrl, host?, fileAuthority, given, bytes, ofUtf8?_utf8]
    rfl
  · cases converted

theorem filePath?_isAbsolute {u : Url} {p : Path} (converted : u.filePath? = some p) : p.isAbsolute = true := by
  unfold filePath? at converted
  split at converted
  · rename_i parts route
    split at converted
    · cases converted
    · rename_i given
      cases parts with
      | nil => simp at given
      | cons part parts =>
        obtain ⟨text, decoded, rfl⟩ := Option.map_eq_some_iff.mp converted
        obtain ⟨rest, begins⟩ : ∃ rest, pathBytes (part :: parts) = UInt8.ofNat 0x2F :: rest := by
          unfold pathBytes
          rw [List.flatMap_cons]
          simp only
          split
          · exact ⟨_, rfl⟩
          · exact ⟨_, rfl⟩
        rw [begins, ofUtf8?_one rest (by decide)] at decoded
        obtain ⟨text, -, rfl⟩ := Option.map_eq_some_iff.mp decoded
        exact (Path.isAbsolute_iff _).mpr ⟨text, rfl⟩
  · cases converted

end ImportHooks.Url
