import Mathlib.Data.List.Nodup
import Mathlib.Data.List.Perm.Subperm
import ImportHooks.Proofs.Tsconfig.Reference

namespace ImportHooks.Tsconfig
open Text

namespace Trail

def enter (files : Files) (t : Trail) (path : Path) : Trail := (t.visit path).add (Config.load files path).2

@[simp] theorem enter_visited (files : Files) (t : Trail) (path : Path) :
    (t.enter files path).visited = .of path :: t.visited := rfl

theorem hasVisited_iff (t : Trail) (p : Path) : t.hasVisited p = true ↔ Visit.of p ∈ t.visited := by
  simp [hasVisited]

theorem hasVisited_mono {before after : Trail} (grown : before.visited ⊆ after.visited) {p : Path}
    (visited : before.hasVisited p = true) : after.hasVisited p = true :=
  (after.hasVisited_iff p).mpr (grown ((before.hasVisited_iff p).mp visited))

theorem hasVisited_same (t : Trail) {p q : Path} (same : p.same q = true) : t.hasVisited p = t.hasVisited q := by
  simp only [hasVisited, (same_iff p q).mp same]

theorem hasVisited_enter (files : Files) (t : Trail) (path p : Path) :
    (t.enter files path).hasVisited p = true ↔ path.same p = true ∨ t.hasVisited p = true := by
  simp only [hasVisited_iff, enter_visited, List.mem_cons, same_iff]
  exact or_congr_left eq_comm

end Trail

-- What a search may do with the entries of a config.
inductive Tried (files : Files) (visit : Path → Trail → Outcome) (path : Path) :
    List Text → Trail → Option Text → Trail → Prop where
  | exhausted {trail} : Tried files visit path [] trail none trail
  | skipped {entry rest trail result after} (unlocated : files.base? path entry = none)
      (others : Tried files visit path rest
        (trail.add ((firstFile files (candidates (directoryOf path) entry)).2 ++ [.told (.unlocated entry path)]))
        result after) :
      Tried files visit path (entry :: rest) trail result after
  | found {entry rest trail base level after} (located : files.base? path entry = some base)
      (visited : visit base (trail.add (firstFile files (candidates (directoryOf path) entry)).2) =
        some (some level, after)) :
      Tried files visit path (entry :: rest) trail (some level) after
  | passed {entry rest trail base middle result after} (located : files.base? path entry = some base)
      (visited : visit base (trail.add (firstFile files (candidates (directoryOf path) entry)).2) =
        some (none, middle))
      (others : Tried files visit path rest middle result after) :
      Tried files visit path (entry :: rest) trail result after

theorem firstBase_sound {files : Files} {visit : Path → Trail → Outcome} {path : Path} {entries : List Text}
    {trail after : Trail} {result : Option Text}
    (ended : firstBase files visit path entries trail = some (result, after)) :
    Tried files visit path entries trail result after := by
  induction entries generalizing trail with
  | nil =>
    simp only [firstBase, Option.some.injEq, Prod.mk.injEq] at ended
    obtain ⟨rfl, rfl⟩ := ended
    exact .exhausted
  | cons entry rest ih =>
    simp only [firstBase] at ended
    split at ended
    · rename_i unlocated
      exact .skipped unlocated (ih ended)
    · rename_i base located
      split at ended
      · cases ended
      · rename_i level middle visited
        simp only [Option.some.injEq, Prod.mk.injEq] at ended
        obtain ⟨rfl, rfl⟩ := ended
        exact .found located visited
      · rename_i middle visited
        exact .passed located visited (ih ended)

theorem firstBase_complete {files : Files} {visit : Path → Trail → Outcome} {path : Path} {entries : List Text}
    {trail after : Trail} {result : Option Text} (tried : Tried files visit path entries trail result after) :
    firstBase files visit path entries trail = some (result, after) := by
  induction tried with
  | exhausted => rfl
  | skipped unlocated _ ih =>
    simp only [Files.base?] at unlocated
    simp only [firstBase, unlocated, ih]
  | found located visited =>
    simp only [Files.base?] at located
    simp only [firstBase, located, visited]
  | passed located visited _ ih =>
    simp only [Files.base?] at located
    simp only [firstBase, located, visited, ih]

inductive Sought (files : Files) (visit : Path → Trail → Outcome) (path : Path) (trail : Trail) :
    Option Text → Trail → Prop where
  | circular (seen : trail.hasVisited path = true) :
      Sought files visit path trail none (trail.add [.told (.circular path)])
  | unread (fresh : trail.hasVisited path = false) (failed : files.config? path = none) :
      Sought files visit path trail none (trail.enter files path)
  | own {config level} (fresh : trail.hasVisited path = false) (read : files.config? path = some config)
      (named : config.target = some level) : Sought files visit path trail (some level) (trail.enter files path)
  | inherited {config result after} (fresh : trail.hasVisited path = false)
      (read : files.config? path = some config) (unnamed : config.target = none)
      (tried : Tried files visit path config.entries.reverse (trail.enter files path) result after) :
      Sought files visit path trail result after

theorem seek_sound {files : Files} {depth : Nat} {path : Path} {trail after : Trail} {result : Option Text}
    (ended : seek files (depth + 1) path trail = some (result, after)) :
    Sought files (seek files depth) path trail result after := by
  simp only [seek] at ended
  split at ended
  · rename_i seen
    simp only [Option.some.injEq, Prod.mk.injEq] at ended
    obtain ⟨rfl, rfl⟩ := ended
    exact .circular seen
  · rename_i fresh
    have fresh : trail.hasVisited path = false := by simpa using fresh
    split at ended
    · rename_i failed
      simp only [Option.some.injEq, Prod.mk.injEq] at ended
      obtain ⟨rfl, rfl⟩ := ended
      exact .unread fresh failed
    · rename_i config read
      split at ended
      · rename_i level named
        simp only [Option.some.injEq, Prod.mk.injEq] at ended
        obtain ⟨rfl, rfl⟩ := ended
        exact .own fresh read named
      · rename_i unnamed
        exact .inherited fresh read unnamed (firstBase_sound ended)

theorem seek_complete {files : Files} {depth : Nat} {path : Path} {trail after : Trail} {result : Option Text}
    (sought : Sought files (seek files depth) path trail result after) :
    seek files (depth + 1) path trail = some (result, after) := by
  cases sought with
  | circular seen => simp [seek, seen]
  | unread fresh failed =>
    simp only [Files.config?] at failed
    simp [seek, fresh, failed, Trail.enter]
  | own fresh read named =>
    simp only [Files.config?] at read
    simp [seek, fresh, read, named, Trail.enter]
  | inherited fresh read unnamed tried =>
    simp only [Files.config?] at read
    simpa [seek, fresh, read, unnamed, Trail.enter] using firstBase_complete tried

theorem Tried.grows {files : Files} {visit : Path → Trail → Outcome} {path : Path} {entries : List Text}
    {trail after : Trail} {result : Option Text}
    (visitGrows : ∀ base before r later, visit base before = some (r, later) → before.visited ⊆ later.visited)
    (tried : Tried files visit path entries trail result after) : trail.visited ⊆ after.visited := by
  induction tried with
  | exhausted => exact List.Subset.refl _
  | skipped _ _ ih => exact ih
  | found _ visited => exact visitGrows _ (Trail.add _ _) _ _ visited
  | passed _ visited _ ih => exact List.Subset.trans (visitGrows _ (Trail.add _ _) _ _ visited) ih

theorem seek_grows {files : Files} {depth : Nat} {path : Path} {trail after : Trail} {result : Option Text}
    (ended : seek files depth path trail = some (result, after)) : trail.visited ⊆ after.visited := by
  induction depth generalizing path trail after result with
  | zero => cases ended
  | succ depth ih =>
    cases seek_sound ended with
    | circular => exact List.Subset.refl _
    | unread | own => exact List.subset_cons_self _ _
    | inherited _ _ _ tried =>
      exact List.Subset.trans (List.subset_cons_self _ _) (tried.grows fun _ _ _ _ => ih)

theorem Tried.weaken {files : Files} {visit visit' : Path → Trail → Outcome} {path : Path} {entries : List Text}
    {trail after : Trail} {result : Option Text}
    (more : ∀ base before outcome, visit base before = some outcome → visit' base before = some outcome)
    (tried : Tried files visit path entries trail result after) :
    Tried files visit' path entries trail result after := by
  induction tried with
  | exhausted => exact .exhausted
  | skipped unlocated _ ih => exact .skipped unlocated ih
  | found located visited => exact .found located (more _ _ _ visited)
  | passed located visited _ ih => exact .passed located (more _ _ _ visited) ih

theorem seek_succ {files : Files} {depth : Nat} {path : Path} {trail : Trail} {outcome : Option Text × Trail}
    (ended : seek files depth path trail = some outcome) : seek files (depth + 1) path trail = some outcome := by
  induction depth generalizing path trail outcome with
  | zero => cases ended
  | succ depth ih =>
    obtain ⟨result, after⟩ := outcome
    apply seek_complete
    cases seek_sound ended with
    | circular seen => exact .circular seen
    | unread fresh failed => exact .unread fresh failed
    | own fresh read named => exact .own fresh read named
    | inherited fresh read unnamed tried => exact .inherited fresh read unnamed (tried.weaken fun _ _ _ => ih)

theorem seek_deeper {files : Files} {depth more : Nat} {path : Path} {trail : Trail}
    {outcome : Option Text × Trail} (enough : depth ≤ more) (ended : seek files depth path trail = some outcome) :
    seek files more path trail = some outcome := by
  induction enough with
  | refl => exact ended
  | step _ ih => exact seek_succ ih

-- A text as a number, with a digit other than zero for each character.
def code (text : Text) : Nat := text.foldr (fun c n => c.toNat + 1 + 0x110001 * n) 0

theorem code_cons (c : Char) (text : Text) : code (c :: text) = c.toNat + 1 + 0x110001 * code text := rfl

theorem toNat_lt (c : Char) : c.toNat < 0x110000 := by
  have valid := c.valid
  simp only [UInt32.isValidChar, Nat.isValidChar] at valid
  simp only [Char.toNat]
  omega

theorem code_lt (text : Text) : code text < Nat.pow 0x110001 text.length := by
  induction text with
  | nil => simp [code]
  | cons c rest ih =>
    have bound := toNat_lt c
    have grows : Nat.pow 0x110001 (rest.length + 1) = Nat.pow 0x110001 rest.length * 0x110001 := rfl
    rw [code_cons, List.length_cons, grows]
    omega

theorem code_injective : Function.Injective code := by
  intro left right equal
  induction left generalizing right with
  | nil =>
    cases right with
    | nil => rfl
    | cons c rest => rw [code_cons] at equal; simp only [code, List.foldr_nil] at equal; omega
  | cons c rest ih =>
    cases right with
    | nil => rw [code_cons] at equal; simp only [code, List.foldr_nil] at equal; omega
    | cons d others =>
      have := toNat_lt c
      have := toNat_lt d
      rw [code_cons, code_cons] at equal
      have heads : c.toNat = d.toNat := by omega
      have tails : code rest = code others := by omega
      rw [Char.toNat_inj.mp heads, ih tails]

theorem texts_bounded {texts : List Text} {limit : Nat} (distinct : texts.Nodup)
    (short : ∀ text ∈ texts, text.length ≤ limit) : texts.length ≤ Nat.pow 0x110001 limit := by
  have codes : texts.map code ⊆ List.range (Nat.pow 0x110001 limit) := by
    intro n member
    obtain ⟨text, there, rfl⟩ := List.mem_map.mp member
    have power : Nat.pow 0x110001 text.length ≤ Nat.pow 0x110001 limit := Nat.pow_le_pow_right (by decide) (short text there)
    exact List.mem_range.mpr (Nat.lt_of_lt_of_le (code_lt text) power)
  have subperm := (List.subperm_of_subset ((List.nodup_map_iff code_injective).mpr distinct) codes)
  simpa using subperm.length_le

theorem readable_bounded {s : Store} {paths : List Path} (read : ∀ q ∈ paths, ∃ text, s.read q = .ok text)
    (distinct : paths.Pairwise fun p q => ¬ p.same q) : paths.length ≤ Nat.pow 0x110001 s.limit := by
  have distinct : (paths.map Path.text).Nodup := by
    rw [List.nodup_iff_pairwise_ne, List.pairwise_map]
    refine distinct.imp ?_
    intro p q different equal
    cases p; cases q
    subst equal
    exact different ((same_iff _ _).mpr rfl)
  have short : ∀ text ∈ paths.map Path.text, text.length ≤ s.limit := by
    intro text member
    obtain ⟨q, there, rfl⟩ := List.mem_map.mp member
    obtain ⟨content, read⟩ := read q there
    exact s.limited q content read
  simpa using texts_bounded distinct short

structure Standing (s : Store) (trail : Trail) (chain : List Path) : Prop where
  read : ∀ q ∈ chain, ∃ text, s.read q = .ok text
  visited : ∀ q ∈ chain, trail.hasVisited q = true
  distinct : chain.Pairwise fun p q => ¬ p.same q

theorem Standing.bounded {s : Store} {trail : Trail} {chain : List Path} (standing : Standing s trail chain) :
    chain.length ≤ Nat.pow 0x110001 s.limit := readable_bounded standing.read standing.distinct

theorem Standing.enter {s : Store} {trail : Trail} {chain : List Path} {path : Path} {config : Config}
    (standing : Standing s trail chain) (fresh : trail.hasVisited path = false)
    (read : s.toFiles.config? path = some config) :
    Standing s (trail.enter s.toFiles path) (path :: chain) := by
  refine ⟨?_, ?_, ?_⟩
  · intro q member
    rcases List.mem_cons.mp member with rfl | there
    · rw [Files.config?_eq] at read
      cases found : s.read q with
      | error failure => simp [found, Except.toOption] at read
      | ok text => exact ⟨text, rfl⟩
    · exact standing.read q there
  · intro q member
    rw [Trail.hasVisited_enter]
    rcases List.mem_cons.mp member with rfl | there
    · exact .inl ((same_iff _ _).mpr rfl)
    · exact .inr (standing.visited q there)
  · refine .cons ?_ standing.distinct
    intro q there same
    rw [trail.hasVisited_same same, standing.visited q there] at fresh
    cases fresh

theorem Standing.later {s : Store} {before after : Trail} {chain : List Path} (standing : Standing s before chain)
    (grown : before.visited ⊆ after.visited) : Standing s after chain :=
  ⟨standing.read, fun q there => Trail.hasVisited_mono grown (standing.visited q there), standing.distinct⟩

theorem firstBase_ends {s : Store} {visit : Path → Trail → Outcome} {path : Path} {chain : List Path}
    (visitEnds : ∀ base trail, Standing s trail chain → ∃ outcome, visit base trail = some outcome)
    (visitGrows : ∀ base before r later, visit base before = some (r, later) → before.visited ⊆ later.visited)
    (entries : List Text) (trail : Trail) (standing : Standing s trail chain) :
    ∃ outcome, firstBase s.toFiles visit path entries trail = some outcome := by
  induction entries generalizing trail with
  | nil => exact ⟨_, rfl⟩
  | cons entry rest ih =>
    simp only [firstBase]
    split
    · exact ih _ (standing.later (List.Subset.refl _))
    · rename_i base located
      obtain ⟨⟨result, middle⟩, visited⟩ := visitEnds base
        (trail.add (firstFile s.toFiles (candidates (directoryOf path) entry)).2)
        (standing.later (List.Subset.refl _))
      rw [visited]
      cases result with
      | some level => exact ⟨_, rfl⟩
      | none => exact ih middle (standing.later (visitGrows _ (trail.add _) _ _ visited))

-- The depth that is left and the configs that the search stands on always add up
-- to more than the paths that can be read.
theorem seek_ends (s : Store) (depth : Nat) (path : Path) (trail : Trail) (chain : List Path)
    (standing : Standing s trail chain) (enough : s.depth ≤ chain.length + depth) :
    ∃ outcome, seek s.toFiles depth path trail = some outcome := by
  induction depth generalizing path trail chain with
  | zero =>
    have := standing.bounded
    simp only [Store.depth] at enough
    omega
  | succ depth ih =>
    by_cases seen : trail.hasVisited path = true
    · exact ⟨_, seek_complete (.circular seen)⟩
    · have fresh : trail.hasVisited path = false := by simpa using seen
      cases read : s.toFiles.config? path with
      | none => exact ⟨_, seek_complete (.unread fresh read)⟩
      | some config =>
        cases named : config.target with
        | some level => exact ⟨_, seek_complete (.own fresh read named)⟩
        | none =>
          have deeper : s.depth ≤ (path :: chain).length + depth := by simp only [List.length_cons]; omega
          obtain ⟨⟨result, after⟩, ended⟩ := firstBase_ends
            (fun base trail standing => ih base trail (path :: chain) standing deeper)
            (fun _ _ _ _ => seek_grows) config.entries.reverse _ (standing.enter fresh read)
          exact ⟨_, seek_complete (.inherited fresh read named (firstBase_sound ended))⟩

theorem findLevel_ends (s : Store) (path : Path) :
    seek s.toFiles s.depth path .start = some (findLevel s path) := by
  obtain ⟨outcome, ended⟩ := seek_ends s s.depth path .start [] ⟨by simp, by simp, .nil⟩ (by simp)
  rw [findLevel, ended]
  rfl

end ImportHooks.Tsconfig
