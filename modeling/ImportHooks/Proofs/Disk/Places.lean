import Mathlib.Data.List.Perm.Subperm
import ImportHooks.Disk
import ImportHooks.Proofs.Path.Names

namespace ImportHooks.Disk
open Text

def Unlinked (d : Disk) : Prop := ∀ e ∈ d.entries, ∀ target, e.2 ≠ .link target

def descend (place : Place) (names : List Text) : Place :=
  names.foldl (fun place name => if name = ['.', '.'] then place.tail else name :: place) place

theorem descend_cons (place : Place) (name : Text) (rest : List Text) :
    descend place (name :: rest) = descend (if name = ['.', '.'] then place.tail else name :: place) rest := rfl

theorem descend_append (place : Place) (front rest : List Text) :
    descend place (front ++ rest) = descend (descend place front) rest := List.foldl_append

theorem entry?_mem {d : Disk} {place : Place} {e : Entry} (found : d.entry? place = some e) :
    (place = [] ∧ e = .directory) ∨ (place, e) ∈ d.entries := by
  unfold entry? at found
  split at found
  · rename_i root
    cases found
    exact .inl ⟨root, rfl⟩
  · obtain ⟨⟨there, e'⟩, first, rfl⟩ := Option.map_eq_some_iff.mp found
    have same : there = place := by simpa using List.find?_some first
    exact .inr (same ▸ List.mem_of_find?_eq_some first)

theorem Unlinked.entry? {d : Disk} (unlinked : d.Unlinked) {place : Place} {target : Path} :
    d.entry? place ≠ some (.link target) := by
  intro found
  rcases entry?_mem found with ⟨-, other⟩ | member
  · cases other
  · exact unlinked _ member target rfl

inductive Walks (d : Disk) (follow : Place → List Text → Except Failure Place) (found : Place) : Place → List Text → Prop where
  | done : Walks d follow found found []
  | idle {place segment rest} (inside : d.entry? place = some .directory) (idle : Path.isIdle segment = true)
      (onward : Walks d follow found place rest) : Walks d follow found place (segment :: rest)
  | up {place rest} (inside : d.entry? place = some .directory) (onward : Walks d follow found place.tail rest) :
      Walks d follow found place (['.', '.'] :: rest)
  | link {place segment rest target} (inside : d.entry? place = some .directory) (solid : Path.isIdle segment = false)
      (down : segment ≠ ['.', '.']) (short : utf8Length segment ≤ nameLimit)
      (entered : d.entry? (segment :: place) = some (.link target))
      (followed : follow (if target.isAbsolute then [] else place) (split '/' target.text ++ rest) = .ok found) :
      Walks d follow found place (segment :: rest)
  | name {place segment rest e} (inside : d.entry? place = some .directory) (solid : Path.isIdle segment = false)
      (down : segment ≠ ['.', '.']) (short : utf8Length segment ≤ nameLimit)
      (entered : d.entry? (segment :: place) = some e) (linkless : ∀ target, e ≠ .link target)
      (onward : Walks d follow found (segment :: place) rest) : Walks d follow found place (segment :: rest)

section
variable {d : Disk} {follow : Place → List Text → Except Failure Place} {segments : List Text} {place found : Place}

theorem walkWith_sound (walked : d.walkWith follow place segments = .ok found) : Walks d follow found place segments := by
  induction segments generalizing place with
  | nil =>
    cases walked
    exact .done
  | cons segment rest ih =>
    simp only [Disk.walkWith] at walked
    split at walked
    · cases walked
    · rename_i inside
      have inside : d.entry? place = some .directory := Decidable.not_not.mp inside
      split at walked
      · rename_i idle
        exact .idle inside idle (ih walked)
      · rename_i solid
        have solid : Path.isIdle segment = false := by simpa using solid
        split at walked
        · rename_i up
          exact up ▸ .up inside (ih walked)
        · rename_i down
          split at walked
          · cases walked
          · rename_i short
            split at walked
            · cases walked
            · rename_i entered
              exact .link inside solid down (Nat.not_lt.mp short) entered walked
            · rename_i linkless entered
              exact .name inside solid down (Nat.not_lt.mp short) entered linkless (ih walked)

theorem walkWith_complete (walks : Walks d follow found place segments) : d.walkWith follow place segments = .ok found := by
  induction walks with
  | done => rfl
  | idle inside idle onward ih => simp [Disk.walkWith, inside, idle, ih]
  | up inside onward ih =>
    have solid : Path.isIdle ['.', '.'] = false := by decide
    simp [Disk.walkWith, inside, solid, ih]
  | link inside solid down short entered followed =>
    simp [Disk.walkWith, inside, solid, down, Nat.not_lt.mpr short, entered, followed]
  | @name place segment rest e inside solid down short entered linkless onward ih =>
    cases e with
    | link target => exact absurd rfl (linkless target)
    | file bytes => simp [Disk.walkWith, inside, solid, down, Nat.not_lt.mpr short, entered, ih]
    | directory => simp [Disk.walkWith, inside, solid, down, Nat.not_lt.mpr short, entered, ih]

theorem Unlinked.walks (unlinked : d.Unlinked) (walks : Walks d follow found place segments) :
    found = descend place (segments.filter (!Path.isIdle ·)) := by
  induction walks with
  | done => rfl
  | idle inside idle onward ih =>
    rw [List.filter_cons_of_neg (by simp [idle])]
    exact ih
  | up inside onward ih =>
    rw [List.filter_cons_of_pos (by decide), descend_cons, if_pos rfl]
    exact ih
  | link inside solid down short entered followed => exact absurd entered unlinked.entry?
  | name inside solid down short entered linkless onward ih =>
    rw [List.filter_cons_of_pos (by simp [solid]), descend_cons, if_neg down]
    exact ih

theorem Unlinked.walks_through (unlinked : d.Unlinked) (walks : Walks d follow found place segments)
    {front rest : List Text} {name : Text} (parted : segments.filter (!Path.isIdle ·) = front ++ name :: rest) :
    d.entry? (descend place front) = some .directory := by
  induction walks generalizing front with
  | done => cases front <;> cases parted
  | idle inside idle onward ih =>
    rw [List.filter_cons_of_neg (by simp [idle])] at parted
    exact ih parted
  | up inside onward ih =>
    rw [List.filter_cons_of_pos (by decide)] at parted
    cases front with
    | nil => exact inside
    | cons first front =>
      obtain ⟨rfl, behind⟩ := List.cons.inj parted
      rw [descend_cons, if_pos rfl]
      exact ih behind
  | link inside solid down short entered followed => exact absurd entered unlinked.entry?
  | name inside solid down short entered linkless onward ih =>
    rw [List.filter_cons_of_pos (by simp [solid])] at parted
    cases front with
    | nil => exact inside
    | cons first front =>
      obtain ⟨rfl, behind⟩ := List.cons.inj parted
      rw [descend_cons, if_neg down]
      exact ih behind

end

theorem Unlinked.walk {d : Disk} (unlinked : d.Unlinked) {links : Nat} {segments : List Text} {place found : Place}
    (walked : d.walk links place segments = .ok found) : found = descend place (segments.filter (!Path.isIdle ·)) := by
  cases links with
  | zero => exact unlinked.walks (walkWith_sound walked)
  | succ links => exact unlinked.walks (walkWith_sound walked)

theorem locate_walk {d : Disk} {p : Path} {place : Place} (located : d.locate p = .ok place) :
    d.walk linkLimit (d.origin p) (split '/' p.text) = .ok place := by
  unfold Disk.locate at located
  split at located
  · cases located
  · split at located
    · cases located
    · split at located
      · cases located
      · exact located

theorem Unlinked.locate {d : Disk} (unlinked : d.Unlinked) {p : Path} {place : Place} (located : d.locate p = .ok place) :
    place = descend (d.origin p) p.names := by
  rw [Path.names_eq]
  exact unlinked.walk (locate_walk located)

theorem descend_level {names : List Text} (level : ['.', '.'] ∉ names) (place : Place) :
    descend place names = names.reverse ++ place := by
  induction names generalizing place with
  | nil => rfl
  | cons name rest ih =>
    simp only [List.mem_cons, not_or] at level
    rw [descend_cons, if_neg (Ne.symm level.1), ih level.2, List.reverse_cons, List.append_assoc]
    rfl

def SamePlace (d : Disk) (p q : Path) : Prop := ∃ place, d.locate p = .ok place ∧ d.locate q = .ok place

theorem origin_of_anchor (d : Disk) {p q : Path} (same : p.anchor = q.anchor) : d.origin p = d.origin q := by
  unfold origin Path.isAbsolute
  rw [same]

-- Two ways to write a path that tell nothing about whether they mean one file:
-- they start from different points, or one of them climbs.
def Respelled (p q : Path) : Prop := p.anchor ≠ q.anchor ∨ ['.', '.'] ∈ p.names ∨ ['.', '.'] ∈ q.names

theorem Unlinked.same_of_samePlace {d : Disk} (unlinked : d.Unlinked) {p q : Path} (one : d.SamePlace p q)
    (alike : ¬ Respelled p q) : p.same q = true := by
  simp only [Respelled, not_or, ne_eq, Decidable.not_not] at alike
  obtain ⟨anchors, levelLeft, levelRight⟩ := alike
  obtain ⟨place, left, right⟩ := one
  have names : p.names.reverse ++ d.origin p = q.names.reverse ++ d.origin p := by
    calc p.names.reverse ++ d.origin p = place := by
          rw [unlinked.locate left, descend_level levelLeft]
      _ = q.names.reverse ++ d.origin p := by
          rw [unlinked.locate right, descend_level levelRight, d.origin_of_anchor anchors]
  have equal : p.names = q.names := List.reverse_inj.mp (List.append_cancel_right names)
  simp [Path.same, Path.components, anchors, equal]

theorem Unlinked.samePlace_of_same {d : Disk} (unlinked : d.Unlinked) {p q : Path} (same : p.same q = true)
    {left right : Place} (locatedLeft : d.locate p = .ok left) (locatedRight : d.locate q = .ok right) :
    d.SamePlace p q := by
  simp only [Path.same, Path.components, decide_eq_true_eq, Prod.mk.injEq] at same
  refine ⟨left, locatedLeft, ?_⟩
  rw [locatedRight, unlinked.locate locatedLeft, unlinked.locate locatedRight, same.2, d.origin_of_anchor same.1]

theorem isFile_iff (d : Disk) (p : Path) :
    d.isFile p = true ↔ ∃ place bytes, d.locate p = .ok place ∧ d.entry? place = some (.file bytes) := by
  unfold isFile find?
  cases located : d.locate p with
  | error failure => simp
  | ok place =>
    cases found : d.entry? place with
    | none => simp [found]
    | some e => cases e <;> simp [found]

theorem isFile_of_read {d : Disk} {p : Path} {text : Text} (read : d.read p = .ok text) : d.isFile p = true := by
  unfold Disk.read at read
  split at read
  · cases read
  · rename_i place located
    split at read
    · rename_i bytes found
      exact (d.isFile_iff p).mpr ⟨place, bytes, located, found⟩
    · cases read
    · cases read

def isFileEntry : Entry → Bool
  | .file _ => true
  | _ => false

def filePlaces (d : Disk) : List Place := (d.entries.filter (isFileEntry ·.2)).map (·.1)

theorem files_bounded {d : Disk} {paths : List Path} (files : ∀ p ∈ paths, d.isFile p = true)
    (distinct : paths.Pairwise fun p q => ¬ d.SamePlace p q) : paths.length ≤ d.filePlaces.length := by
  let placeOf := fun p => (d.locate p).toOption.getD []
  have located : ∀ p ∈ paths, ∃ place bytes, d.locate p = .ok place ∧ placeOf p = place ∧
      d.entry? place = some (.file bytes) := by
    intro p member
    obtain ⟨place, bytes, located, found⟩ := (d.isFile_iff p).mp (files p member)
    exact ⟨place, bytes, located, by simp [placeOf, located, Except.toOption], found⟩
  have apart : (paths.map placeOf).Nodup := by
    rw [List.nodup_iff_pairwise_ne, List.pairwise_map]
    refine distinct.imp_of_mem ?_
    intro p q there thereToo different equal
    obtain ⟨left, _, locatedLeft, placeLeft, _⟩ := located p there
    obtain ⟨right, _, locatedRight, placeRight, _⟩ := located q thereToo
    refine different ⟨left, locatedLeft, ?_⟩
    rw [locatedRight, ← placeRight, ← equal, placeLeft]
  have held : paths.map placeOf ⊆ d.filePlaces := by
    intro place member
    obtain ⟨p, there, rfl⟩ := List.mem_map.mp member
    obtain ⟨place, bytes, -, same, found⟩ := located p there
    rcases entry?_mem found with ⟨-, other⟩ | entered
    · cases other
    · rw [same]
      exact List.mem_map.mpr ⟨(place, .file bytes), List.mem_filter.mpr ⟨entered, rfl⟩, rfl⟩
  have bounded := (List.subperm_of_subset apart held).length_le
  rwa [List.length_map] at bounded

end ImportHooks.Disk
