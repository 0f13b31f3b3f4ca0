import ImportHooks.Proofs.Tsconfig.Steps

namespace ImportHooks.Tsconfig

-- What a search is at: a config, or the entries of one that are still to be tried.
inductive Aim where
  | config (path : Path)
  | entries (path : Path) (rest : List Text)

inductive Finds (files : Files) : Aim → Trail → Option Text → Trail → Prop where
  | circular {path trail} (seen : trail.hasVisited path = true) :
      Finds files (.config path) trail none (trail.add [.told (.circular path)])
  | unread {path trail} (fresh : trail.hasVisited path = false) (failed : files.config? path = none) :
      Finds files (.config path) trail none (trail.enter files path)
  | own {path trail config level} (fresh : trail.hasVisited path = false) (read : files.config? path = some config)
      (named : config.target = some level) : Finds files (.config path) trail (some level) (trail.enter files path)
  | inherited {path trail config result after} (fresh : trail.hasVisited path = false)
      (read : files.config? path = some config) (unnamed : config.target = none)
      (tries : Finds files (.entries path config.entries.reverse) (trail.enter files path) result after) :
      Finds files (.config path) trail result after
  | exhausted {path trail} : Finds files (.entries path []) trail none trail
  | skipped {path entry rest trail result after} (unlocated : files.base? path entry = none)
      (others : Finds files (.entries path rest)
        (trail.add ((firstFile files (candidates (directoryOf path) entry)).2 ++ [.told (.unlocated entry path)]))
        result after) :
      Finds files (.entries path (entry :: rest)) trail result after
  | found {path entry rest trail base level after} (located : files.base? path entry = some base)
      (finds : Finds files (.config base) (trail.add (firstFile files (candidates (directoryOf path) entry)).2)
        (some level) after) :
      Finds files (.entries path (entry :: rest)) trail (some level) after
  | passed {path entry rest trail base middle result after} (located : files.base? path entry = some base)
      (finds : Finds files (.config base) (trail.add (firstFile files (candidates (directoryOf path) entry)).2)
        none middle)
      (others : Finds files (.entries path rest) middle result after) :
      Finds files (.entries path (entry :: rest)) trail result after

def Aim.seek (files : Files) (depth : Nat) : Aim → Trail → Outcome
  | .config path => Tsconfig.seek files depth path
  | .entries path rest => firstBase files (Tsconfig.seek files depth) path rest

variable {files : Files} {aim : Aim} {path : Path} {trail after : Trail} {result : Option Text}

theorem Aim.seek_deeper {depth more : Nat} (enough : depth ≤ more)
    (ended : aim.seek files depth trail = some (result, after)) : aim.seek files more trail = some (result, after) := by
  cases aim with
  | config path => exact Tsconfig.seek_deeper enough ended
  | entries path rest =>
    exact firstBase_complete ((firstBase_sound ended).weaken fun _ _ _ ends => Tsconfig.seek_deeper enough ends)

theorem Finds.seek (finds : Finds files aim trail result after) : ∃ depth, aim.seek files depth trail = some (result, after) := by
  induction finds with
  | circular seen => exact ⟨1, seek_complete (.circular seen)⟩
  | unread fresh failed => exact ⟨1, seek_complete (.unread fresh failed)⟩
  | own fresh read named => exact ⟨1, seek_complete (.own fresh read named)⟩
  | inherited fresh read unnamed _ ih =>
    obtain ⟨depth, ended⟩ := ih
    exact ⟨depth + 1, seek_complete (.inherited fresh read unnamed (firstBase_sound ended))⟩
  | exhausted => exact ⟨0, rfl⟩
  | skipped unlocated _ ih =>
    obtain ⟨depth, ended⟩ := ih
    exact ⟨depth, firstBase_complete (.skipped unlocated (firstBase_sound ended))⟩
  | found located _ ih =>
    obtain ⟨depth, ended⟩ := ih
    exact ⟨depth, firstBase_complete (.found located ended)⟩
  | passed located _ _ ihFirst ihOthers =>
    obtain ⟨first, ended⟩ := ihFirst
    obtain ⟨second, others⟩ := ihOthers
    have ended := Aim.seek_deeper (Nat.le_max_left first second) ended
    have others := Aim.seek_deeper (Nat.le_max_right first second) others
    exact ⟨max first second, firstBase_complete (.passed located ended (firstBase_sound others))⟩

theorem Tried.finds {entries : List Text} {visit : Path → Trail → Outcome}
    (visitFinds : ∀ base before result later, visit base before = some (result, later) →
      Finds files (.config base) before result later)
    (tried : Tried files visit path entries trail result after) : Finds files (.entries path entries) trail result after := by
  induction tried with
  | exhausted => exact .exhausted
  | skipped unlocated _ ih => exact .skipped unlocated ih
  | found located visited => exact .found located (visitFinds _ _ _ _ visited)
  | passed located visited _ ih => exact .passed located (visitFinds _ _ _ _ visited) ih

theorem finds_of_seek {depth : Nat} (ended : seek files depth path trail = some (result, after)) :
    Finds files (.config path) trail result after := by
  induction depth generalizing path trail result after with
  | zero => cases ended
  | succ depth ih =>
    cases seek_sound ended with
    | circular seen => exact .circular seen
    | unread fresh failed => exact .unread fresh failed
    | own fresh read named => exact .own fresh read named
    | inherited fresh read unnamed tried => exact .inherited fresh read unnamed (tried.finds fun _ _ _ _ => ih)

theorem finds_iff_findLevel {s : Store} {start : Path} :
    Finds s.toFiles (.config start) .start result after ↔ findLevel s start = (result, after) := by
  have ends := findLevel_ends s start
  constructor
  · intro finds
    obtain ⟨depth, ended⟩ := finds.seek
    have one := seek_deeper (Nat.le_max_left s.depth depth) ends
    have other := seek_deeper (Nat.le_max_right s.depth depth) ended
    exact Option.some.inj (one.symm.trans other)
  · intro found
    exact finds_of_seek (found ▸ ends)

theorem readTarget_opened (s : Store) (start : Path) :
    opened (readTarget s start).2 = opened (findLevel s start).2.events := by
  unfold readTarget
  split
  · rename_i trail found
    rw [found]
  · rename_i level trail found
    rw [found]
    split
    · rfl
    · rw [opened_append]
      exact List.append_nil _

theorem Faithful.opened_apart {files : Files} {start : Path} {t : Trail} (faithful : Faithful files start t) :
    (opened t.events).Pairwise fun p q => ¬ p.same q = true := by
  have distinct := faithful.distinct
  rw [faithful.visited, List.nodup_reverse, List.nodup_iff_pairwise_ne, List.pairwise_map] at distinct
  exact distinct.imp fun different same => different ((same_iff _ _).mp same)

-- Links, cycles and climbing entries included, as on any disk (`Store.ofDisk`): a search
-- ends, in exactly one way, and that is the answer of `findLevel`. No path is read twice,
-- and no more paths can be read than are short enough.
theorem search_ends_and_reads_no_path_twice (s : Store) (start : Path) :
    (∀ result after, Finds s.toFiles (.config start) .start result after ↔ findLevel s start = (result, after)) ∧
    ((opened (readTarget s start).2).Pairwise fun p q => ¬ p.same q = true) ∧
    ((opened (readTarget s start).2).filter fun p => (s.read p).isOk).length ≤ Nat.pow 0x110001 s.limit := by
  have ran : Runs s.toFiles start .start (findLevel s start).2 := search_runs (findLevel_ends s start)
  have apart := (faithful_of_runs ran).opened_apart
  rw [← readTarget_opened] at apart
  refine ⟨fun _ _ => finds_iff_findLevel, apart, readable_bounded ?_ (apart.filter _)⟩
  intro p member
  have readable := (List.mem_filter.mp member).2
  cases found : s.read p with
  | ok text => exact ⟨text, rfl⟩
  | error failure =>
    rw [found] at readable
    cases readable

end ImportHooks.Tsconfig
