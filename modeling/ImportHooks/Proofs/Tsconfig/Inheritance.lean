import ImportHooks.Proofs.Tsconfig.Visits

namespace ImportHooks.Tsconfig

variable {files : Files} {start : Path}

theorem Files.Reached.base {path base : Path} {config : Config} (reached : files.Reached start path)
    (read : files.config? path = some config) (member : base ∈ files.bases path config) :
    files.Reached start base := reached.tail ⟨config, read, member⟩

-- What a search leaves behind it: a visited config off the chain has no level of
-- its own, and its bases were visited too. It was visited without success, and a
-- config on the chain is the only thing that can have cut a search through it.
def Settled (files : Files) (start : Path) (trail : Trail) (chain : List Path) : Prop :=
  ∀ p config, files.Reached start p → trail.hasVisited p = true → (∀ q ∈ chain, ¬ q.same p) →
    files.config? p = some config →
    config.target = none ∧ ∀ base ∈ files.bases p config, trail.hasVisited base = true

def OnTrail (trail : Trail) (chain : List Path) : Prop := ∀ q ∈ chain, trail.hasVisited q = true

theorem settled_start : Settled files start .start [] := by
  intro p config _ visited
  simp [Trail.hasVisited, Trail.start] at visited

theorem OnTrail.enter {trail : Trail} {chain : List Path} (onTrail : OnTrail trail chain) (path : Path) :
    OnTrail (trail.enter files path) (path :: chain) := by
  intro q member
  rw [Trail.hasVisited_enter]
  rcases List.mem_cons.mp member with rfl | there
  · exact .inl ((same_iff _ _).mpr rfl)
  · exact .inr (onTrail q there)

theorem Settled.enter {trail : Trail} {chain : List Path} (settled : Settled files start trail chain) (path : Path) :
    Settled files start (trail.enter files path) (path :: chain) := by
  intro p config reached visited off read
  have old : trail.hasVisited p = true := by
    rcases (Trail.hasVisited_enter files trail path p).mp visited with same | old
    · exact absurd same (off path (by simp))
    · exact old
  obtain ⟨unnamed, bases⟩ := settled p config reached old (fun q there => off q (by simp [there])) read
  refine ⟨unnamed, fun base member => ?_⟩
  exact (Trail.hasVisited_enter files trail path base).mpr (.inr (bases base member))

theorem Settled.leave {trail : Trail} {chain : List Path} {path : Path} (coherent : files.Coherent start)
    (settled : Settled files start trail (path :: chain)) (reached : files.Reached start path)
    (done : ∀ config, files.config? path = some config →
      config.target = none ∧ ∀ base ∈ files.bases path config, trail.hasVisited base = true) :
    Settled files start trail chain := by
  intro p config reachedToo visited off read
  by_cases same : path.same p
  · have readToo : files.config? path = some config := by
      rw [Files.config?_eq, coherent.reads path p reached reachedToo same, ← Files.config?_eq, read]
    obtain ⟨unnamed, bases⟩ := done config readToo
    refine ⟨unnamed, fun base member => ?_⟩
    have keys := coherent.locates path p config reached reachedToo same readToo
    have key : base.components ∈ (files.bases path config).map Path.components := by
      rw [keys]
      exact List.mem_map_of_mem member
    obtain ⟨twin, there, equal⟩ := List.mem_map.mp key
    have twins : twin.same base = true := by simp [Path.same, equal]
    rw [← trail.hasVisited_same twins]
    exact bases twin there
  · refine settled p config reachedToo visited ?_ read
    intro q member
    rcases List.mem_cons.mp member with rfl | there
    · exact same
    · exact off q there

def loose (trail : Trail) (chain : List Path) : List Visit :=
  trail.visited.filter fun key => key ∉ chain.map Visit.of

theorem loose_cons {trail : Trail} {chain : List Path} {path : Path} (visited : trail.hasVisited path = true)
    (fresh : ∀ q ∈ chain, ¬ q.same path) : (loose trail (path :: chain)).length < (loose trail chain).length := by
  have before : Visit.of path ∈ loose trail chain := by
    refine List.mem_filter.mpr ⟨(trail.hasVisited_iff path).mp visited, ?_⟩
    simp only [List.mem_map, decide_eq_true_eq, not_exists, not_and]
    intro q there equal
    exact fresh q there ((same_iff q path).mpr equal)
  have split : loose trail (path :: chain) = (loose trail chain).filter fun key => key ≠ Visit.of path := by
    simp only [loose, List.filter_filter]
    refine List.filter_congr fun key _ => ?_
    simp [not_or]
  rw [split]
  exact List.length_filter_lt_length_iff_exists.mpr ⟨_, before, by simp⟩

-- From a settled config no level can be reached past the chain: every way on
-- leads to settled configs again, or back to the chain.
theorem Settled.nothing {trail : Trail} {base : List Path} (settled : Settled files start trail base) {path : Path}
    {chain : List Path} (longer : base ⊆ chain) (reached : files.Reached start path)
    (visited : trail.hasVisited path = true) : Effective files chain path none := by
  generalize count : (loose trail chain).length = n
  induction n using Nat.strongRecOn generalizing path chain with
  | ind n ih =>
    by_cases again : ∃ q ∈ chain, q.same path = true
    · exact .circular again
    · have fresh : ∀ q ∈ chain, ¬ q.same path := fun q there same => again ⟨q, there, same⟩
      cases read : files.config? path with
      | none => exact .unread fresh read
      | some config =>
        obtain ⟨unnamed, bases⟩ := settled path config reached visited (fun q there => fresh q (longer there)) read
        refine .barren fresh read unnamed fun b member => ?_
        have fewer : (loose trail (path :: chain)).length < n := count ▸ loose_cons visited fresh
        exact ih _ fewer (List.Subset.trans longer (List.subset_cons_self _ _)) (reached.base read member)
          (bases b member) rfl

def Agrees (files : Files) (start : Path) (visit : Path → Trail → Outcome) : Prop :=
  ∀ path trail chain result after, files.Reached start path → Settled files start trail chain →
    OnTrail trail chain → visit path trail = some (result, after) →
    Effective files chain path result ∧
      (result = none → Settled files start after chain ∧ after.hasVisited path = true)

def Yields (files : Files) (chain : List Path) (bases : List Path) (after : Trail) : Option Text → Prop
  | none => ∀ b ∈ bases, Effective files chain b none ∧ after.hasVisited b = true
  | some level => ∃ passed base rest, bases = passed ++ base :: rest ∧
      Effective files chain base (some level) ∧ ∀ b ∈ passed, Effective files chain b none

theorem Tried.yields {visit : Path → Trail → Outcome} {path : Path} {chain : List Path} {entries : List Text}
    {trail after : Trail} {result : Option Text} (agrees : Agrees files start visit)
    (grows : ∀ base before r later, visit base before = some (r, later) → before.visited ⊆ later.visited)
    (reached : ∀ b ∈ entries.filterMap (files.base? path), files.Reached start b)
    (settled : Settled files start trail chain) (onTrail : OnTrail trail chain)
    (tried : Tried files visit path entries trail result after) :
    Yields files chain (entries.filterMap (files.base? path)) after result ∧
      (result = none → Settled files start after chain) := by
  induction tried with
  | exhausted => exact ⟨by simp [Yields], fun _ => settled⟩
  | skipped unlocated _ ih =>
    rw [List.filterMap_cons_none unlocated] at reached ⊢
    exact ih reached settled onTrail
  | found located visited =>
    rw [List.filterMap_cons_some located] at reached ⊢
    have effective := (agrees _ (Trail.add _ _) _ _ _ (reached _ (by simp)) settled onTrail visited).1
    exact ⟨⟨[], _, _, rfl, effective, by simp⟩, nofun⟩
  | @passed entry rest trail base middle result after located visited others ih =>
    rw [List.filterMap_cons_some located] at reached ⊢
    obtain ⟨nothing, left⟩ := agrees _ (Trail.add _ _) _ _ _ (reached _ (by simp)) settled onTrail visited
    obtain ⟨settledThen, seen⟩ := left rfl
    have grown := grows _ (Trail.add _ _) _ _ visited
    have onTrailThen : OnTrail middle chain := fun q there => Trail.hasVisited_mono grown (onTrail q there)
    obtain ⟨others', settledAfter⟩ := ih (fun b member => reached b (by simp [member])) settledThen onTrailThen
    refine ⟨?_, settledAfter⟩
    cases result with
    | none =>
      intro b member
      rcases List.mem_cons.mp member with rfl | there
      · exact ⟨nothing, Trail.hasVisited_mono (others.grows grows) seen⟩
      · exact others' b there
    | some level =>
      obtain ⟨passed, base', rest', split, effective, passedOver⟩ := others'
      refine ⟨base :: passed, base', rest', by simp [split], effective, ?_⟩
      intro b member
      rcases List.mem_cons.mp member with rfl | there
      · exact nothing
      · exact passedOver b there

theorem seek_agrees (coherent : files.Coherent start) (depth : Nat) : Agrees files start (seek files depth) := by
  induction depth with
  | zero => exact fun _ _ _ _ _ _ _ _ ended => nomatch ended
  | succ depth ih =>
    intro path trail chain result after reached settled onTrail ended
    have off (fresh : trail.hasVisited path = false) : ∀ q ∈ chain, ¬ q.same path := by
      intro q there same
      rw [← trail.hasVisited_same same, onTrail q there] at fresh
      cases fresh
    have seenHere : (trail.enter files path).hasVisited path = true :=
      (Trail.hasVisited_enter files trail path path).mpr (.inl ((same_iff _ _).mpr rfl))
    cases seek_sound ended with
    | circular seen => exact ⟨settled.nothing (List.Subset.refl _) reached seen, fun _ => ⟨settled, seen⟩⟩
    | unread fresh failed =>
      refine ⟨.unread (off fresh) failed, fun _ => ⟨?_, seenHere⟩⟩
      exact (settled.enter path).leave coherent reached fun config read => by rw [failed] at read; cases read
    | own fresh read named => exact ⟨.own (off fresh) read named, nofun⟩
    | @inherited config result after fresh read unnamed tried =>
      have backwards : config.entries.reverse.filterMap (files.base? path) = (files.bases path config).reverse :=
        List.filterMap_reverse
      have reachedBases : ∀ b ∈ config.entries.reverse.filterMap (files.base? path), files.Reached start b := by
        intro b member
        rw [backwards, List.mem_reverse] at member
        exact reached.base read member
      obtain ⟨yields, settledAfter⟩ := tried.yields ih (fun _ _ _ _ => seek_grows) reachedBases
        (settled.enter path) (onTrail.enter path)
      rw [backwards] at yields
      cases result with
      | none =>
        simp only [Yields, List.mem_reverse] at yields
        refine ⟨.barren (off fresh) read unnamed fun b member => (yields b member).1, fun _ => ⟨?_, ?_⟩⟩
        · refine (settledAfter rfl).leave coherent reached fun config' read' => ?_
          cases Option.some.inj (read.symm.trans read')
          exact ⟨unnamed, fun b member => (yields b member).2⟩
        · exact Trail.hasVisited_mono (tried.grows fun _ _ _ _ => seek_grows) seenHere
      | some level =>
        obtain ⟨passed, base, rest, split, effective, passedOver⟩ := yields
        have split' : files.bases path config = rest.reverse ++ base :: passed.reverse := by
          rw [← List.reverse_reverse (files.bases path config), split]
          simp
        exact ⟨.inherited (off fresh) read unnamed split' effective (by simpa using passedOver), nofun⟩

def Ends (files : Files) (start : Path) (chain : List Path) (path : Path) (result : Option Text) : Prop :=
  ∀ trail, Settled files start trail chain → OnTrail trail chain →
    ∃ depth after, seek files depth path trail = some (result, after)

inductive BasesEnd (files : Files) (start : Path) (chain : List Path) : List Path → Option Text → Prop where
  | exhausted : BasesEnd files start chain [] none
  | found {base rest level} (ends : Ends files start chain base (some level)) :
      BasesEnd files start chain (base :: rest) (some level)
  | passed {base rest result} (ends : Ends files start chain base none) (others : BasesEnd files start chain rest result) :
      BasesEnd files start chain (base :: rest) result

theorem BasesEnd.append {chain passed rest : List Path} {result : Option Text}
    (ends : ∀ b ∈ passed, Ends files start chain b none) (others : BasesEnd files start chain rest result) :
    BasesEnd files start chain (passed ++ rest) result := by
  induction passed with
  | nil => exact others
  | cons b passed ih => exact .passed (ends b (by simp)) (ih fun b' member => ends b' (by simp [member]))

theorem BasesEnd.tried {path : Path} {chain : List Path} {entries : List Text} {trail : Trail} {result : Option Text}
    (coherent : files.Coherent start)
    (reached : ∀ b ∈ entries.filterMap (files.base? path), files.Reached start b)
    (settled : Settled files start trail chain) (onTrail : OnTrail trail chain)
    (ends : BasesEnd files start chain (entries.filterMap (files.base? path)) result) :
    ∃ depth after, Tried files (seek files depth) path entries trail result after := by
  induction entries generalizing trail with
  | nil =>
    rw [List.filterMap_nil] at ends
    cases ends
    exact ⟨0, _, .exhausted⟩
  | cons entry rest ih =>
    cases located : files.base? path entry with
    | none =>
      rw [List.filterMap_cons_none located] at reached ends
      obtain ⟨depth, after, tried⟩ := ih reached (show Settled files start (trail.add _) chain from settled) onTrail ends
      exact ⟨depth, after, .skipped located tried⟩
    | some base =>
      rw [List.filterMap_cons_some located] at reached ends
      cases ends with
      | found ends =>
        obtain ⟨depth, after, ended⟩ := ends (trail.add _) settled onTrail
        exact ⟨depth, after, .found located ended⟩
      | passed ends others =>
        obtain ⟨first, middle, ended⟩ := ends (trail.add _) settled onTrail
        have left := (seek_agrees coherent first _ (trail.add _) _ _ _ (reached base (by simp)) settled onTrail ended).2 rfl
        have onTrailThen : OnTrail middle chain :=
          fun q there => Trail.hasVisited_mono (seek_grows ended) (onTrail q there)
        obtain ⟨second, after, tried⟩ := ih (fun b member => reached b (by simp [member])) left.1 onTrailThen others
        refine ⟨max first second, after, .passed located (seek_deeper (Nat.le_max_left _ _) ended) ?_⟩
        exact tried.weaken fun _ _ _ => seek_deeper (Nat.le_max_right _ _)

theorem Effective.ends_of_fresh {chain : List Path} {path : Path} {result : Option Text}
    (effective : Effective files chain path result) (reached : files.Reached start path)
    (ends : ∀ trail, Settled files start trail chain → OnTrail trail chain → trail.hasVisited path = false →
      ∃ depth after, seek files depth path trail = some (result, after)) : Ends files start chain path result := by
  intro trail settled onTrail
  cases fresh : trail.hasVisited path with
  | false => exact ends trail settled onTrail fresh
  | true =>
    cases effective.unique (settled.nothing (List.Subset.refl _) reached fresh)
    exact ⟨1, _, seek_complete (.circular fresh)⟩

theorem ends_of_bases {chain : List Path} {path : Path} {config : Config} {trail : Trail} {result : Option Text}
    (coherent : files.Coherent start) (reached : files.Reached start path)
    (settled : Settled files start trail chain) (onTrail : OnTrail trail chain) (fresh : trail.hasVisited path = false)
    (read : files.config? path = some config) (unnamed : config.target = none)
    (ends : BasesEnd files start (path :: chain) (files.bases path config).reverse result) :
    ∃ depth after, seek files depth path trail = some (result, after) := by
  have backwards : config.entries.reverse.filterMap (files.base? path) = (files.bases path config).reverse :=
    List.filterMap_reverse
  rw [← backwards] at ends
  have reachedBases : ∀ b ∈ config.entries.reverse.filterMap (files.base? path), files.Reached start b := by
    intro b member
    rw [backwards, List.mem_reverse] at member
    exact reached.base read member
  obtain ⟨depth, after, tried⟩ := ends.tried coherent reachedBases (settled.enter path) (onTrail.enter path)
  exact ⟨depth + 1, after, seek_complete (.inherited fresh read unnamed tried)⟩

theorem Effective.ends {chain : List Path} {path : Path} {result : Option Text} (coherent : files.Coherent start)
    (reached : files.Reached start path) (effective : Effective files chain path result) :
    Ends files start chain path result := by
  induction effective with
  | circular again =>
    refine ends_of_fresh (.circular again) reached fun trail _ onTrail fresh => ?_
    obtain ⟨q, there, same⟩ := again
    rw [← trail.hasVisited_same same, onTrail q there] at fresh
    cases fresh
  | unread off failed =>
    exact ends_of_fresh (.unread off failed) reached fun trail _ _ fresh =>
      ⟨1, _, seek_complete (.unread fresh failed)⟩
  | own off read named =>
    exact ends_of_fresh (.own off read named) reached fun trail _ _ fresh =>
      ⟨1, _, seek_complete (.own fresh read named)⟩
  | inherited off read unnamed split found passed ihFound ihPassed =>
    refine ends_of_fresh (.inherited off read unnamed split found passed) reached
      fun trail settled onTrail fresh => ends_of_bases coherent reached settled onTrail fresh read unnamed ?_
    have within : ∀ b ∈ _, files.Reached start b := fun b member => reached.base read (split ▸ member)
    rw [split, List.reverse_append, List.reverse_cons, List.append_assoc]
    refine .append (fun b member => ?_) (.found (ihFound (within _ (by simp))))
    exact ihPassed b (List.mem_reverse.mp member) (within b (by simp [List.mem_reverse.mp member]))
  | barren off read unnamed passed ih =>
    refine ends_of_fresh (.barren off read unnamed passed) reached
      fun trail settled onTrail fresh => ends_of_bases coherent reached settled onTrail fresh read unnamed ?_
    rw [← List.append_nil (files.bases _ _).reverse]
    refine .append (fun b member => ?_) .exhausted
    exact ih b (List.mem_reverse.mp member) (reached.base read (List.mem_reverse.mp member))

-- Sharing one visited set changes no answer: a search comes to an end with the
-- level of the reference search, or else neither of the two ends. In a store a
-- search always ends.
theorem search_finds_effective_level (files : Files) (start : Path) (coherent : files.Coherent start) :
    (∀ level, (∃ depth trail, seek files depth start .start = some (level, trail)) ↔
      Effective files [] start level) ∧
    ∀ (s : Store) (level : Option Text), s.toFiles = files →
      ((findLevel s start).1 = level ↔ Effective files [] start level) := by
  have sound : ∀ depth level trail, seek files depth start .start = some (level, trail) →
      Effective files [] start level := fun depth level trail ended =>
    (seek_agrees coherent depth start .start [] level trail .refl settled_start nofun ended).1
  refine ⟨fun level => ⟨?_, ?_⟩, ?_⟩
  · rintro ⟨depth, trail, ended⟩
    exact sound depth level trail ended
  · intro effective
    exact effective.ends coherent .refl .start settled_start nofun
  · rintro s level rfl
    have found := sound s.depth (findLevel s start).1 (findLevel s start).2 (findLevel_ends s start)
    constructor
    · rintro rfl
      exact found
    · exact found.unique

theorem coherent_of_closed (paths : List Path) (here : start ∈ paths)
    (closed : ∀ p ∈ paths, ∀ config ∈ files.config? p, ∀ base ∈ files.bases p config, base ∈ paths)
    (agree : ∀ p ∈ paths, ∀ q ∈ paths, p.same q → (files.read p).toOption = (files.read q).toOption ∧
      ∀ config ∈ files.config? p,
        (files.bases p config).map Path.components = (files.bases q config).map Path.components) :
    files.Coherent start := by
  have inside : ∀ p, files.Reached start p → p ∈ paths := by
    intro p reached
    induction reached with
    | refl => exact here
    | tail _ leads ih =>
      obtain ⟨config, read, member⟩ := leads
      exact closed _ ih config read _ member
  exact ⟨fun p q toP toQ same => (agree p (inside p toP) q (inside q toQ) same).1,
    fun p q config toP toQ same read => (agree p (inside p toP) q (inside q toQ) same).2 config read⟩

def inProject (name text : String) : Place × Entry := ([name.toList, "p".toList], .file (Text.utf8 text.toList))

def diamond : Disk where
  entries := [(["p".toList], .directory),
    inProject "base.json" "\x7b\"compilerOptions\":\x7b\"target\":\"es2017\"\x7d\x7d",
    inProject "a.json" "\x7b\"extends\":\"./c\"\x7d",
    inProject "b.json" "\x7b\"extends\":[\"./c\",\"./tsconfig.json\"]\x7d",
    inProject "c.json" "\x7b\"extends\":\"./b\"\x7d",
    inProject "tsconfig.json" "\x7b\"extends\":[\"./base.json\",\"./a\",\"./b\"]\x7d"]
  working := []

def diamondStart : Path := ⟨"/p/tsconfig.json".toList⟩

def diamondPaths : List Path :=
  ["/p/tsconfig.json", "/p/./tsconfig.json", "/p/./base.json", "/p/./a.json", "/p/./b.json", "/p/./c.json"].map
    fun text => ⟨text.toList⟩

theorem diamond_coherent : (Files.ofDisk diamond).Coherent diamondStart :=
  coherent_of_closed diamondPaths (by decide +kernel) (by decide +kernel) (by decide +kernel)

theorem diamond_effective_level :
    (Files.ofDisk diamond).Coherent diamondStart ∧
      Effective (.ofDisk diamond) [] diamondStart (some "es2017".toList) :=
  ⟨diamond_coherent, ((search_finds_effective_level (.ofDisk diamond) diamondStart diamond_coherent).2
    (.ofDisk diamond) (some "es2017".toList) rfl).mp (by decide +kernel)⟩

end ImportHooks.Tsconfig
