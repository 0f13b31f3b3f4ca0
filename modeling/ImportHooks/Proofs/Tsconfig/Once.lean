import ImportHooks.Proofs.Disk.Places
import ImportHooks.Proofs.Path.Ancestors
import ImportHooks.Proofs.Tsconfig.Inheritance
import ImportHooks.Proofs.Tsconfig.Steps

namespace ImportHooks.Tsconfig
open Relation

variable {start : Path}

-- The config that an entry of a disk holds.
def configOf : Entry → Option Config
  | .file bytes => (Text.ofUtf8? bytes).bind Config.parse?
  | _ => none

-- No config on the disk extends anything by climbing.
def Level (d : Disk) : Prop :=
  ∀ e ∈ d.entries, ∀ config ∈ configOf e.2, ∀ entry ∈ config.entries, ['.', '.'] ∉ (Path.mk entry).names

section Disk

variable {d : Disk}

theorem config?_found {path : Path} {config : Config} (read : (Files.ofDisk d).config? path = some config) :
    d.isFile path = true ∧ ∃ e ∈ d.entries, config ∈ configOf e.2 := by
  rw [Files.config?_eq] at read
  obtain ⟨text, content, parsed⟩ := Option.bind_eq_some_iff.mp read
  have readable : d.read path = .ok text := by
    cases found : d.read path with
    | error failure => simp [Files.ofDisk, found, Except.toOption] at content
    | ok other =>
      simp only [Files.ofDisk, found, Except.toOption, Option.some.injEq] at content
      rw [content]
  have isFile := Disk.isFile_of_read readable
  obtain ⟨place, bytes, located, entered⟩ := (d.isFile_iff path).mp isFile
  refine ⟨isFile, ?_⟩
  rcases Disk.entry?_mem entered with ⟨-, other⟩ | member
  · cases other
  · refine ⟨_, member, ?_⟩
    have decoded : Text.ofUtf8? bytes = some text := by
      simp only [Disk.read, located, entered] at readable
      cases decoded : Text.ofUtf8? bytes with
      | none => simp [decoded] at readable
      | some other => simpa [decoded] using readable
    simp [configOf, decoded, parsed]

theorem start_is_file {p : Path} (led : TransGen (Files.ofDisk d).Leads start p) : d.isFile start = true := by
  obtain ⟨base, ⟨config, read, -⟩, -⟩ := TransGen.head'_iff.mp led
  exact (config?_found read).1

theorem straight_candidates {directory : Path} {entry : Text} (straight : directory.Straight)
    (level : ['.', '.'] ∉ (Path.mk entry).names) : ∀ candidate ∈ candidates directory entry, candidate.Straight := by
  have spelled {p : Path} (straight : p.Straight) : ∀ q ∈ spellings p entry, q.Straight := by
    intro q member
    unfold spellings at member
    split at member
    · rw [List.mem_singleton.mp member]
      exact straight
    · simp only [List.mem_cons, List.not_mem_nil, or_false] at member
      rcases member with rfl | rfl
      · exact straight
      · exact straight.append (by decide) (by decide)
  intro candidate member
  unfold candidates at member
  split at member
  · exact spelled (straight.join level) candidate member
  · obtain ⟨ancestor, above, member⟩ := List.mem_flatMap.mp member
    have package : ((ancestor.join packages).join ⟨entry⟩).Straight :=
      ((straight.ancestors above).join (by decide)).join level
    rcases List.mem_append.mp member with direct | inside
    · exact spelled package candidate direct
    · rw [List.mem_singleton.mp inside]
      exact package.join (by decide)

theorem straight_of_leads (unlinked : d.Unlinked) (level : Level d) {path base : Path} (straight : path.Straight)
    (leads : (Files.ofDisk d).Leads path base) : base.Straight := by
  obtain ⟨config, read, member⟩ := leads
  obtain ⟨isFile, e, entered, held⟩ := config?_found read
  obtain ⟨entry, listed, located⟩ := List.mem_filterMap.mp member
  have named : path.names ≠ [] := by
    intro unnamed
    obtain ⟨place, bytes, found, entry⟩ := (d.isFile_iff path).mp isFile
    have root : place = [] := by
      rw [unlinked.locate found, unnamed, Disk.origin, straight.rooted]
      rfl
    rw [root] at entry
    cases entry
  have directory : (directoryOf path).Straight := by
    obtain ⟨parent, cutOff⟩ := Option.isSome_iff_exists.mp (Path.parent?_isSome named)
    rw [directoryOf, cutOff]
    exact straight.parent cutOff
  exact straight_candidates directory (level e entered config held entry listed) base (firstFile_some located).1

theorem straight_of_led (unlinked : d.Unlinked) (level : Level d) (straight : start.Straight) {p : Path}
    (led : TransGen (Files.ofDisk d).Leads start p) : p.Straight := by
  induction led with
  | single leads => exact straight_of_leads unlinked level straight leads
  | tail _ leads ih => exact straight_of_leads unlinked level ih leads

theorem Faithful.samePlace {t : Trail} (faithful : Faithful (.ofDisk d) start t) (unlinked : d.Unlinked)
    {before : List Event} {p : Path} (behind : before <+: t.events) (led : TransGen (Files.ofDisk d).Leads start p)
    (isFile : d.isFile p = true) (seen : Seen before p) : ∃ earlier ∈ opened before, d.SamePlace earlier p := by
  obtain ⟨earlier, there, same⟩ := seen
  have isFileToo : d.isFile earlier = true := by
    rcases faithful.led earlier (opened_mono behind there) with rfl | ⟨-, located⟩
    · exact start_is_file led
    · exact located
  obtain ⟨_, _, located, _⟩ := (d.isFile_iff p).mp isFile
  obtain ⟨_, _, locatedToo, _⟩ := (d.isFile_iff earlier).mp isFileToo
  exact ⟨earlier, there, unlinked.samePlace_of_same same locatedToo located⟩

structure OpensOnce (d : Disk) (events : List Event) : Prop where
  once : (opened events).Pairwise fun p q => ¬ d.SamePlace p q
  bounded : ((opened events).filter d.isFile).length ≤ d.filePlaces.length
  cut : ∀ before base, before ++ [.probed base] <+: events → d.isFile base = true →
    (∃ earlier ∈ opened before, d.SamePlace earlier base) → before ++ [.probed base, .told (.circular base)] <+: events
  read : ∀ before base, before ++ [.probed base] <+: events → d.isFile base = true →
    (∀ earlier ∈ opened before, ¬ d.SamePlace earlier base) → before ++ [.probed base, .opened base] <+: events

theorem Faithful.pairwise {t : Trail} (faithful : Faithful (.ofDisk d) start t) (unlinked : d.Unlinked) :
    (opened t.events).Pairwise fun p q => d.SamePlace p q → Disk.Respelled p q := by
  have distinct := faithful.distinct
  rw [faithful.visited, List.nodup_reverse, List.nodup_iff_pairwise_ne, List.pairwise_map] at distinct
  refine distinct.imp ?_
  intro p q different one
  by_cases respelled : Disk.Respelled p q
  · exact respelled
  · exact absurd ((same_iff p q).mp (unlinked.same_of_samePlace one respelled)) different

theorem Faithful.opensOnce {t : Trail} (faithful : Faithful (.ofDisk d) start t) (unlinked : d.Unlinked)
    (alike : ∀ p ∈ opened t.events, ∀ q ∈ opened t.events, ¬ Disk.Respelled p q) : OpensOnce d t.events := by
  have once : (opened t.events).Pairwise fun p q => ¬ d.SamePlace p q := by
    refine (faithful.pairwise unlinked).imp_of_mem ?_
    intro p q there thereToo respelled one
    exact alike p there q thereToo (respelled one)
  refine ⟨once, ?_, ?_, ?_⟩
  · exact Disk.files_bounded (fun p member => (List.mem_filter.mp member).2) (once.sublist List.filter_sublist)
  · intro before base behind isFile opens
    obtain ⟨earlier, there, one⟩ := opens
    rcases faithful.due before base behind isFile with ⟨-, next⟩ | ⟨fresh, next⟩
    · exact next
    · -- had it been read here, its file would have been opened twice
      have inside : earlier ∈ opened t.events := opened_mono ((List.prefix_append _ _).trans behind) there
      have here : base ∈ opened t.events := opened_mono next (by simp [opened])
      exact absurd ⟨earlier, there, unlinked.same_of_samePlace one (alike earlier inside base here)⟩ fresh
  · intro before base behind isFile unopened
    rcases faithful.due before base behind isFile with ⟨seen, next⟩ | ⟨-, next⟩
    · have told : (before ++ [.probed base]) ++ [.told (.circular base)] <+: t.events := by simpa using next
      obtain ⟨led, -, -⟩ := faithful.cut _ _ told
      obtain ⟨earlier, there, one⟩ := faithful.samePlace unlinked ((List.prefix_append _ _).trans behind) led isFile seen
      exact absurd one (unopened earlier there)
    · exact next

-- On a disk without links a search opens a file again only under a path that climbs
-- or starts from another point, and cuts nothing but files that it opened. When no
-- config climbs, and the start does not either, it opens each file once.
theorem search_opens_again_only_respelled (d : Disk) (unlinked : d.Unlinked) (start : Path) :
    let events := (readTarget (.ofDisk d) start).2
    ((opened events).Pairwise fun p q => d.SamePlace p q → Disk.Respelled p q) ∧
    (∀ before path, before ++ [.told (.circular path)] <+: events → ∃ earlier ∈ opened before, d.SamePlace earlier path) ∧
    ((∀ p ∈ opened events, ∀ q ∈ opened events, ¬ Disk.Respelled p q) → OpensOnce d events) ∧
    (start.Straight → Level d → OpensOnce d events) := by
  intro events
  obtain ⟨t, ran, same⟩ := readTarget_runs (.ofDisk d) start
  have faithful : Faithful (.ofDisk d) start t := faithful_of_runs ran
  have same : events = t.events := same
  rw [same]
  refine ⟨faithful.pairwise unlinked, ?_, faithful.opensOnce unlinked, ?_⟩
  · intro before path behind
    obtain ⟨led, isFile, seen⟩ := faithful.cut before path behind
    exact faithful.samePlace unlinked ((List.prefix_append _ _).trans behind) led isFile seen
  · intro straight level
    have all : ∀ p ∈ opened t.events, p.Straight := by
      intro p member
      rcases faithful.led p member with rfl | ⟨led, -⟩
      · exact straight
      · exact straight_of_led unlinked level straight led
    refine faithful.opensOnce unlinked ?_
    rintro p there q thereToo (anchors | climbs | climbs)
    · exact anchors ((all p there).anchored.trans (all q thereToo).anchored.symm)
    · exact (all p there).level climbs
    · exact (all q thereToo).level climbs

end Disk

theorem unlinked_of_kinds {d : Disk} (kinds : ∀ e ∈ d.entries, e.2 = .directory ∨ Disk.isFileEntry e.2 = true) :
    d.Unlinked := by
  rintro e member target linked
  rcases kinds e member with directory | file
  · rw [linked] at directory
    cases directory
  · rw [linked] at file
    cases file

theorem diamond_opens_once :
    diamond.Unlinked ∧ OpensOnce diamond (readTarget (.ofDisk diamond) diamondStart).2 ∧
      (opened (readTarget (.ofDisk diamond) diamondStart).2).length = 5 := by
  have unlinked : diamond.Unlinked := unlinked_of_kinds (by decide)
  have straight : diamondStart.Straight := ⟨by decide, by decide⟩
  have level : Level diamond := by
    unfold Level
    decide +kernel
  exact ⟨unlinked, (search_opens_again_only_respelled diamond unlinked diamondStart).2.2.2 straight level, by decide +kernel⟩

def atRoot (name text : String) : Place × Entry := ([name.toList], .file (Text.utf8 text.toList))

def loop : Disk where
  entries := [atRoot "tsconfig.json" "\x7b\"extends\":\"./a.json\"\x7d",
    atRoot "a.json" "\x7b\"extends\":\"./tsconfig.json\"\x7d"]
  working := []

def climbing : Disk where
  entries := [(["p".toList], .directory), inProject "base.json" "\x7b\x7d",
    inProject "tsconfig.json" "\x7b\"extends\":[\"./base.json\",\"../p/base.json\"]\x7d"]
  working := []

-- Without a leading dot the start is not taken for the file that the cycle comes back
-- to, and a path that climbs is not taken for the one that does not.
theorem respelled_files_open_again :
    (loop.Unlinked ∧ ¬ OpensOnce loop (readTarget (.ofDisk loop) ⟨"tsconfig.json".toList⟩).2) ∧
    (climbing.Unlinked ∧ ¬ OpensOnce climbing (readTarget (.ofDisk climbing) ⟨"/p/tsconfig.json".toList⟩).2) := by
  refine ⟨⟨unlinked_of_kinds (by decide), fun opensOnce => ?_⟩, ⟨unlinked_of_kinds (by decide), fun opensOnce => ?_⟩⟩
  · have reads : opened (readTarget (.ofDisk loop) ⟨"tsconfig.json".toList⟩).2 =
        [⟨"tsconfig.json".toList⟩, ⟨"./a.json".toList⟩, ⟨"././tsconfig.json".toList⟩] := by decide +kernel
    have one : loop.SamePlace ⟨"tsconfig.json".toList⟩ ⟨"././tsconfig.json".toList⟩ :=
      ⟨["tsconfig.json".toList], by decide +kernel, by decide +kernel⟩
    have apart := reads ▸ opensOnce.once
    exact List.rel_of_pairwise_cons apart (List.mem_cons_of_mem _ (List.mem_singleton.mpr rfl)) one
  · have reads : opened (readTarget (.ofDisk climbing) ⟨"/p/tsconfig.json".toList⟩).2 =
        [⟨"/p/tsconfig.json".toList⟩, ⟨"/p/../p/base.json".toList⟩, ⟨"/p/./base.json".toList⟩] := by decide +kernel
    have one : climbing.SamePlace ⟨"/p/../p/base.json".toList⟩ ⟨"/p/./base.json".toList⟩ :=
      ⟨["base.json".toList, "p".toList], by decide +kernel, by decide +kernel⟩
    have apart := (reads ▸ opensOnce.once).of_cons
    exact List.rel_of_pairwise_cons apart (List.mem_singleton.mpr rfl) one

end ImportHooks.Tsconfig
