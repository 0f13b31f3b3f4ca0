import ImportHooks.Proofs.Disk.Places

namespace ImportHooks.Disk
open Text

-- Every entry stands in a directory.
def Grounded (d : Disk) : Prop := ∀ e ∈ d.entries, d.entry? e.1.tail = some .directory

def IsDirectory (d : Disk) (p : Path) : Prop := d.find? p = some .directory

def Settled (d : Disk) (place : Place) : Prop :=
  d.entry? place = some .directory ∨ ∃ bytes, d.entry? place = some (.file bytes)

theorem entry?_root (d : Disk) : d.entry? [] = some .directory := if_pos rfl

theorem Grounded.parent {d : Disk} (grounded : d.Grounded) {place : Place} {e : Entry} (found : d.entry? place = some e) :
    d.entry? place.tail = some .directory := by
  rcases entry?_mem found with ⟨rfl, -⟩ | member
  · exact d.entry?_root
  · exact grounded _ member

theorem Grounded.walks {d : Disk} (grounded : d.Grounded) {follow : Place → List Text → Except Failure Place}
    (follows : ∀ place segments found, d.Settled place → follow place segments = .ok found → d.Settled found)
    {segments : List Text} {place found : Place} (settled : d.Settled place)
    (walks : Walks d follow found place segments) : d.Settled found := by
  induction walks with
  | done => exact settled
  | idle inside idle onward ih => exact ih settled
  | up inside onward ih => exact ih (.inl (grounded.parent inside))
  | link inside solid down short entered followed =>
    refine follows _ _ _ ?_ followed
    split
    · exact .inl d.entry?_root
    · exact settled
  | @name place segment rest e inside solid down short entered linkless onward ih =>
    refine ih ?_
    cases e with
    | file bytes => exact .inr ⟨bytes, entered⟩
    | directory => exact .inl entered
    | link target => exact absurd rfl (linkless target)

theorem Grounded.walk {d : Disk} (grounded : d.Grounded) {links : Nat} {segments : List Text} {place found : Place}
    (settled : d.Settled place) (walked : d.walk links place segments = .ok found) : d.Settled found := by
  induction links generalizing place segments found with
  | zero => exact grounded.walks (fun _ _ _ _ followed => by cases followed) settled (walkWith_sound walked)
  | succ links ih => exact grounded.walks (fun _ _ _ settled followed => ih settled followed) settled (walkWith_sound walked)

theorem Grounded.find? {d : Disk} (grounded : d.Grounded) {p : Path} (rooted : p.isAbsolute = true)
    (existing : d.exists? p = true) : d.IsDirectory p ∨ d.isFile p = true := by
  unfold exists? Disk.find? at existing
  cases located : d.locate p with
  | error failure => simp [located] at existing
  | ok place =>
    have settled : d.Settled place := by
      refine grounded.walk (.inl ?_) (locate_walk located)
      rw [origin, if_pos rooted]
      exact d.entry?_root
    rcases settled with directory | ⟨bytes, file⟩
    · exact .inl (by simp only [IsDirectory, Disk.find?, located, directory])
    · exact .inr ((d.isFile_iff p).mpr ⟨place, bytes, located, file⟩)

theorem Walks.begins {d : Disk} {follow : Place → List Text → Except Failure Place} {segments : List Text}
    {place found : Place} (given : segments ≠ []) (walks : Walks d follow found place segments) :
    d.entry? place = some .directory := by
  cases walks with
  | done => exact absurd rfl given
  | idle inside => exact inside
  | up inside => exact inside
  | link inside => exact inside
  | name inside => exact inside

theorem Grounded.file_in_directory {d : Disk} (grounded : d.Grounded) (unlinked : d.Unlinked) {p : Path}
    (isFile : d.isFile p = true) : p.names ≠ [] ∧
      ∃ place, d.locate p = .ok place ∧ place.tail = descend (d.origin p) p.names.dropLast := by
  obtain ⟨place, bytes, located, entered⟩ := (d.isFile_iff p).mp isFile
  have walks : Walks d (d.walk 39) place (d.origin p) (split '/' p.text) := walkWith_sound (locate_walk located)
  have aimed : place = descend (d.origin p) p.names := unlinked.locate located
  have named : p.names ≠ [] := by
    intro unnamed
    have begun := walks.begins (split_ne_nil '/' p.text)
    rw [aimed, unnamed] at entered
    cases begun.symm.trans entered
  refine ⟨named, place, located, ?_⟩
  obtain ⟨front, last, parted⟩ : ∃ front last, p.names = front ++ [last] :=
    ⟨_, _, (List.dropLast_concat_getLast named).symm⟩
  have through : d.entry? (descend (d.origin p) front) = some .directory :=
    unlinked.walks_through walks ((Path.names_eq p).symm.trans parted)
  have down : last ≠ ['.', '.'] := by
    rintro rfl
    rw [aimed, parted, descend_append, descend_cons, if_pos rfl] at entered
    cases (grounded.parent through).symm.trans entered
  rw [aimed, parted, List.dropLast_concat, descend_append, descend_cons, if_neg down]
  rfl

theorem not_isFile_of_isDirectory {d : Disk} {p : Path} (directory : d.IsDirectory p) : d.isFile p = false := by
  unfold isFile
  rw [directory]

theorem exists?_of_isFile {d : Disk} {p : Path} (file : d.isFile p = true) : d.exists? p = true := by
  unfold isFile at file
  unfold exists?
  cases found : d.find? p with
  | none => simp [found] at file
  | some e => rfl

inductive Pruned : List Text → List Text → Prop where
  | nil : Pruned [] []
  | kept {segment before after} (rest : Pruned before after) : Pruned (segment :: before) (segment :: after)
  | dropped {segment before after} (idle : Path.isIdle segment = true) (rest : Pruned before after) :
    Pruned (segment :: before) after

theorem pruned_names (segments : List Text) : Pruned segments (segments.filter (!Path.isIdle ·)) := by
  induction segments with
  | nil => exact .nil
  | cons segment rest ih =>
    cases idle : Path.isIdle segment with
    | true =>
      rw [List.filter_cons_of_neg (by simp [idle])]
      exact .dropped idle ih
    | false =>
      rw [List.filter_cons_of_pos (by simp [idle])]
      exact .kept ih

theorem Pruned.behind {before after : List Text} (pruned : Pruned before after) (front : List Text) :
    Pruned (front ++ before) (front ++ after) := by
  induction front with
  | nil => exact pruned
  | cons segment front ih => exact .kept ih

-- Leaving out idle segments leaves the way as it is, as long as it does for what
-- stands behind a link.
theorem Walks.pruned {d : Disk} {follow : Place → List Text → Except Failure Place}
    (follows : ∀ place found before after, Pruned before after → follow place before = .ok found →
      follow place after = .ok found)
    {before after : List Text} {place found : Place} (walks : Walks d follow found place before)
    (pruned : Pruned before after) : Walks d follow found place after := by
  induction walks generalizing after with
  | done =>
    cases pruned
    exact .done
  | idle inside idle onward ih =>
    cases pruned with
    | kept rest => exact .idle inside idle (ih rest)
    | dropped _ rest => exact ih rest
  | up inside onward ih =>
    cases pruned with
    | kept rest => exact .up inside (ih rest)
    | dropped idle rest => cases idle
  | link inside solid down short entered followed =>
    cases pruned with
    | kept rest => exact .link inside solid down short entered (follows _ _ _ _ (rest.behind _) followed)
    | dropped idle rest => cases solid.symm.trans idle
  | name inside solid down short entered linkless onward ih =>
    cases pruned with
    | kept rest => exact .name inside solid down short entered linkless (ih rest)
    | dropped idle rest => cases solid.symm.trans idle

theorem walk_pruned {d : Disk} {links : Nat} {before after : List Text} (pruned : Pruned before after)
    {place found : Place} (walked : d.walk links place before = .ok found) : d.walk links place after = .ok found := by
  induction links generalizing before after place found with
  | zero =>
    refine walkWith_complete ((walkWith_sound walked).pruned ?_ pruned)
    intro _ _ _ _ _ followed
    cases followed
  | succ links ih =>
    refine walkWith_complete ((walkWith_sound walked).pruned ?_ pruned)
    intro place found before after rest followed
    exact ih rest followed

theorem normal_isAbsolute (p : Path) : p.normal.isAbsolute = true := (Path.isAbsolute_iff _).mpr ⟨_, rfl⟩

theorem locate_normal {d : Disk} {p : Path} (rooted : p.isAbsolute = true) (named : p.names ≠ []) {place : Place}
    (located : d.locate p = .ok place) : d.locate p.normal = .ok place := by
  obtain ⟨segments, parted, -, names⟩ := Path.split_of_isAbsolute rooted
  unfold locate at located ⊢
  split at located
  · cases located
  · rename_i clean
    split at located
    · cases located
    · split at located
      · cases located
      · rename_i short
        have cleanToo : ¬ p.normal.text.contains '\x00' = true := by
          rw [List.contains_iff_mem] at clean ⊢
          exact fun inside => clean (Path.mem_of_mem_normal rooted inside)
        have shortToo : ¬ pathLimit < utf8Length p.normal.text := by
          have shorter := Path.normal_length rooted
          omega
        have given : p.normal.text ≠ [] := List.cons_ne_nil _ _
        rw [if_neg cleanToo, if_neg given, if_neg shortToo, Path.split_normal named, origin,
          if_pos (normal_isAbsolute p)]
        rw [parted, origin, if_pos rooted] at located
        exact walk_pruned (names ▸ .kept (pruned_names segments)) located

theorem find?_normal {d : Disk} {p : Path} (rooted : p.isAbsolute = true) (named : p.names ≠ [])
    (existing : d.exists? p = true) : d.find? p.normal = d.find? p := by
  unfold exists? Disk.find? at *
  cases located : d.locate p with
  | error failure => simp [located] at existing
  | ok place => rw [locate_normal rooted named located]

end ImportHooks.Disk
