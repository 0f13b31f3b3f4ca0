import ImportHooks.Proofs.Tsconfig.Visits

namespace ImportHooks.Tsconfig
open Relation

def opened (events : List Event) : List Path :=
  events.filterMap fun
    | .opened path => some path
    | _ => none

@[simp] theorem opened_append (left right : List Event) : opened (left ++ right) = opened left ++ opened right :=
  List.filterMap_append

-- An event that locates, opens and cuts nothing.
def Quiet (files : Files) : Event → Prop
  | .opened _ | .told (.circular _) => False
  | .probed path => files.isFile path = false
  | _ => True

theorem Quiet.opened {files : Files} {e : Event} (quiet : Quiet files e) : opened [e] = [] := by
  cases e with
  | opened => exact quiet.elim
  | probed | told => rfl

inductive Step (files : Files) (start : Path) : Trail → Trail → Prop where
  | quiet {t e} (quiet : Quiet files e) : Step files start t (t.add [e])
  | begun : Step files start .start ((Trail.start.visit start).add [.opened start])
  | cut {t base} (led : TransGen files.Leads start base) (located : files.isFile base = true)
      (seen : t.hasVisited base = true) : Step files start t (t.add [.probed base, .told (.circular base)])
  | entered {t base} (led : TransGen files.Leads start base) (located : files.isFile base = true)
      (fresh : t.hasVisited base = false) : Step files start t ((t.visit base).add [.probed base, .opened base])

abbrev Runs (files : Files) (start : Path) : Trail → Trail → Prop := ReflTransGen (Step files start)

theorem Trail.add_add (t : Trail) (first second : List Event) : (t.add first).add second = t.add (first ++ second) := by
  simp [Trail.add]

theorem Trail.add_nil (t : Trail) : t.add [] = t := by
  simp [Trail.add]

variable {files : Files} {start : Path}

theorem runs_quiet {events : List Event} (quiet : ∀ e ∈ events, Quiet files e) (t : Trail) :
    Runs files start t (t.add events) := by
  induction events generalizing t with
  | nil =>
    rw [t.add_nil]
  | cons e rest ih =>
    have first : Step files start t (t.add [e]) := .quiet (quiet e List.mem_cons_self)
    have others := ih (fun e' member => quiet e' (List.mem_cons_of_mem _ member)) (t.add [e])
    rw [t.add_add] at others
    exact .head first others

theorem firstFile_none {paths : List Path} (unlocated : (firstFile files paths).1 = none) :
    ∀ e ∈ (firstFile files paths).2, Quiet files e := by
  induction paths with
  | nil => simp [firstFile]
  | cons path rest ih =>
    unfold firstFile at unlocated ⊢
    split
    · rename_i located
      simp [located] at unlocated
    · rename_i other
      have other : files.isFile path = false := by simpa using other
      simp only [other, Bool.false_eq_true, if_false] at unlocated
      intro e member
      rcases List.mem_cons.mp member with rfl | later
      · exact other
      · exact ih unlocated e later

theorem firstFile_some {paths : List Path} {base : Path} (found : (firstFile files paths).1 = some base) :
    base ∈ paths ∧ files.isFile base = true ∧
      ∃ asked, (firstFile files paths).2 = asked ++ [.probed base] ∧ ∀ e ∈ asked, Quiet files e := by
  induction paths with
  | nil => simp [firstFile] at found
  | cons path rest ih =>
    unfold firstFile at found ⊢
    split
    · rename_i located
      simp only [located, if_true, Option.some.injEq] at found
      subst found
      exact ⟨List.mem_cons_self, located, [], rfl, by simp⟩
    · rename_i other
      have other : files.isFile path = false := by simpa using other
      simp only [other, Bool.false_eq_true, if_false] at found
      obtain ⟨member, located, asked, events, quiet⟩ := ih found
      refine ⟨List.mem_cons_of_mem _ member, located, .probed path :: asked, by simp [events], ?_⟩
      intro e inside
      rcases List.mem_cons.mp inside with rfl | later
      · exact other
      · exact quiet e later

theorem load_events (files : Files) (path : Path) :
    ∃ notices, (Config.load files path).2 = .opened path :: notices ∧ ∀ e ∈ notices, Quiet files e := by
  unfold Config.load
  cases files.read path with
  | error failure => cases failure <;> exact ⟨_, rfl, by simp [Quiet]⟩
  | ok text =>
    cases parsed : Config.parse? text with
    | none => exact ⟨[.told (.malformed path)], by simp only [parsed], by simp [Quiet]⟩
    | some config => exact ⟨[], by simp only [parsed], by simp⟩

theorem runs_entered {t : Trail} {base : Path} (led : TransGen files.Leads start base)
    (located : files.isFile base = true) (fresh : t.hasVisited base = false) :
    Runs files start t ((t.add [.probed base]).enter files base) := by
  obtain ⟨notices, events, quiet⟩ := load_events files base
  have whole : (t.add [.probed base]).enter files base = ((t.visit base).add [.probed base, .opened base]).add notices := by
    simp [Trail.enter, Trail.add, Trail.visit, events]
  rw [whole]
  exact .head (.entered led located fresh) (runs_quiet quiet _)

-- A visit that runs by steps from the trail behind which its base was located.
def VisitRuns (files : Files) (start : Path) (visit : Path → Trail → Outcome) : Prop :=
  ∀ base t result after, TransGen files.Leads start base → files.isFile base = true →
    visit base (t.add [.probed base]) = some (result, after) → Runs files start t after

theorem Tried.runs {visit : Path → Trail → Outcome} {path : Path} {config : Config} {entries : List Text}
    {trail after : Trail} {result : Option Text} (visitRuns : VisitRuns files start visit)
    (reached : files.Reached start path) (read : files.config? path = some config) (within : entries ⊆ config.entries)
    (tried : Tried files visit path entries trail result after) : Runs files start trail after := by
  have leads {entry : Text} {base : Path} (listed : entry ∈ config.entries) (located : files.base? path entry = some base) :
      TransGen files.Leads start base :=
    .tail' reached ⟨config, read, List.mem_filterMap.mpr ⟨entry, listed, located⟩⟩
  have visited {entry : Text} {base : Path} {t later : Trail} {outcome : Option Text} (listed : entry ∈ config.entries)
      (located : files.base? path entry = some base)
      (visited : visit base (t.add (firstFile files (candidates (directoryOf path) entry)).2) = some (outcome, later)) :
      Runs files start t later := by
    obtain ⟨-, isFile, asked, events, quiet⟩ := firstFile_some located
    rw [events, ← t.add_add] at visited
    exact .trans (runs_quiet quiet t) (visitRuns base _ _ _ (leads listed located) isFile visited)
  induction tried with
  | exhausted => exact .refl
  | skipped unlocated _ ih =>
    refine .trans (runs_quiet ?_ _) (ih fun entry member => within (List.mem_cons_of_mem _ member))
    intro e member
    rcases List.mem_append.mp member with asked | told
    · exact firstFile_none unlocated e asked
    · rw [List.mem_singleton.mp told]
      trivial
  | found located reaches => exact visited (within List.mem_cons_self) located reaches
  | passed located reaches _ ih =>
    exact .trans (visited (within List.mem_cons_self) located reaches)
      (ih fun entry member => within (List.mem_cons_of_mem _ member))

theorem seek_runs (depth : Nat) : VisitRuns files start (seek files depth) := by
  induction depth with
  | zero =>
    intro base t result after _ _ ended
    cases ended
  | succ depth ih =>
    intro base t result after led located ended
    cases seek_sound ended with
    | circular seen =>
      rw [t.add_add]
      exact .single (.cut led located seen)
    | unread fresh failed => exact runs_entered led located fresh
    | own fresh read named => exact runs_entered led located fresh
    | inherited fresh read unnamed tried =>
      exact .trans (runs_entered led located fresh) (tried.runs ih led.to_reflTransGen read fun _ member => List.mem_reverse.mp member)

theorem search_runs {depth : Nat} {result : Option Text} {after : Trail}
    (ended : seek files depth start .start = some (result, after)) : Runs files start .start after := by
  have begun : Runs files start .start (Trail.start.enter files start) := by
    obtain ⟨notices, events, quiet⟩ := load_events files start
    have whole : Trail.start.enter files start = ((Trail.start.visit start).add [.opened start]).add notices := by
      simp [Trail.enter, Trail.add, Trail.visit, events]
    rw [whole]
    exact .head .begun (runs_quiet quiet _)
  cases depth with
  | zero => cases ended
  | succ depth =>
    cases seek_sound ended with
    | circular seen => simp [Trail.hasVisited, Trail.start] at seen
    | unread => exact begun
    | own => exact begun
    | inherited _ read _ tried =>
      exact begun.trans (tried.runs (seek_runs depth) .refl read fun _ member => List.mem_reverse.mp member)

theorem readTarget_runs (s : Store) (start : Path) :
    ∃ t, Runs s.toFiles start .start t ∧ (readTarget s start).2 = t.events := by
  have ran : Runs s.toFiles start .start (findLevel s start).2 := search_runs (findLevel_ends s start)
  unfold readTarget
  split
  · rename_i trail found
    rw [found] at ran
    exact ⟨trail, ran, rfl⟩
  · rename_i level trail found
    rw [found] at ran
    split
    · exact ⟨trail, ran, rfl⟩
    · exact ⟨trail.add [.told (.unsupported level)], ran.tail (.quiet trivial), rfl⟩

theorem prefix_one {α : Type} {before events : List α} {x e : α} (behind : before ++ [x] <+: events ++ [e]) :
    (before = events ∧ x = e) ∨ before ++ [x] <+: events := by
  rcases List.prefix_concat_iff.mp behind with whole | earlier
  · obtain ⟨rfl, last⟩ := List.append_inj' whole rfl
    exact .inl ⟨rfl, List.singleton_inj.mp last⟩
  · exact .inr earlier

theorem prefix_two {α : Type} {before events : List α} {x e e' : α} (behind : before ++ [x] <+: events ++ [e, e']) :
    (before = events ++ [e] ∧ x = e') ∨ (before = events ∧ x = e) ∨ before ++ [x] <+: events := by
  have parted : events ++ [e, e'] = (events ++ [e]) ++ [e'] := by simp
  rw [parted] at behind
  rcases prefix_one behind with last | earlier
  · exact .inl last
  · exact .inr (prefix_one earlier)

def Seen (before : List Event) (path : Path) : Prop := ∃ earlier ∈ opened before, earlier.same path = true

-- What the events of a search tell about its visited set, and about one another.
structure Faithful (files : Files) (start : Path) (t : Trail) : Prop where
  visited : t.visited = ((opened t.events).map Visit.of).reverse
  distinct : t.visited.Nodup
  led : ∀ p ∈ opened t.events, p = start ∨ TransGen files.Leads start p ∧ files.isFile p = true
  cut : ∀ before p, before ++ [.told (.circular p)] <+: t.events →
    TransGen files.Leads start p ∧ files.isFile p = true ∧ Seen before p
  due : ∀ before p, before ++ [.probed p] <+: t.events → files.isFile p = true →
    (Seen before p ∧ before ++ [.probed p, .told (.circular p)] <+: t.events) ∨
    (¬ Seen before p ∧ before ++ [.probed p, .opened p] <+: t.events)

theorem Faithful.due_later {t t' : Trail} (faithful : Faithful files start t) (longer : t.events <+: t'.events)
    {before : List Event} {p : Path} (behind : before ++ [.probed p] <+: t.events) (located : files.isFile p = true) :
    (Seen before p ∧ before ++ [.probed p, .told (.circular p)] <+: t'.events) ∨
    (¬ Seen before p ∧ before ++ [.probed p, .opened p] <+: t'.events) := by
  rcases faithful.due before p behind located with ⟨seen, next⟩ | ⟨fresh, next⟩
  · exact .inl ⟨seen, next.trans longer⟩
  · exact .inr ⟨fresh, next.trans longer⟩

theorem Faithful.seen_iff {t : Trail} (faithful : Faithful files start t) (p : Path) :
    t.hasVisited p = true ↔ Seen t.events p := by
  rw [t.hasVisited_iff, faithful.visited, List.mem_reverse, List.mem_map]
  simp only [Seen, same_iff]

theorem faithful_start : Faithful files start .start := by
  refine ⟨rfl, .nil, by simp [Trail.start, opened], ?_, ?_⟩
  · intro before p behind
    simp [Trail.start] at behind
  · intro before p behind
    simp [Trail.start] at behind

theorem Faithful.quiet {t : Trail} (faithful : Faithful files start t) {e : Event} (quiet : Quiet files e) :
    Faithful files start (t.add [e]) := by
  have same : opened (t.add [e]).events = opened t.events := by
    simp only [Trail.add, opened_append, quiet.opened, List.append_nil]
  refine ⟨?_, faithful.distinct, ?_, ?_, ?_⟩
  · rw [same]
    exact faithful.visited
  · rw [same]
    exact faithful.led
  · intro before p behind
    rcases prefix_one behind with ⟨-, rfl⟩ | earlier
    · exact quiet.elim
    · exact faithful.cut before p earlier
  · intro before p behind located
    rcases prefix_one behind with ⟨-, rfl⟩ | earlier
    · exact absurd located (by simpa [Quiet] using quiet)
    · exact faithful.due_later (List.prefix_append _ _) earlier located

theorem faithful_begun : Faithful files start ((Trail.start.visit start).add [.opened start]) := by
  have only : ∀ before e, before ++ [e] <+: [Event.opened start] → e = .opened start := by
    intro before e behind
    have member : e ∈ [Event.opened start] := behind.subset (by simp)
    exact List.mem_singleton.mp member
  refine ⟨rfl, List.nodup_singleton _, ?_, ?_, ?_⟩
  · intro p member
    exact .inl (List.mem_singleton.mp member)
  · intro before p behind
    cases only before _ behind
  · intro before p behind
    cases only before _ behind

theorem Faithful.cut_base {t : Trail} (faithful : Faithful files start t) {base : Path}
    (led : TransGen files.Leads start base) (located : files.isFile base = true) (seen : t.hasVisited base = true) :
    Faithful files start (t.add [.probed base, .told (.circular base)]) := by
  have same : opened (t.add [.probed base, .told (.circular base)]).events = opened t.events := by
    simp [Trail.add, opened]
  have seen := (faithful.seen_iff base).mp seen
  refine ⟨?_, faithful.distinct, ?_, ?_, ?_⟩
  · rw [same]
    exact faithful.visited
  · rw [same]
    exact faithful.led
  · intro before p behind
    rcases prefix_two behind with ⟨rfl, told⟩ | ⟨-, other⟩ | earlier
    · cases told
      refine ⟨led, located, ?_⟩
      simpa [Seen, opened] using seen
    · cases other
    · exact faithful.cut before p earlier
  · intro before p behind isFile
    rcases prefix_two behind with ⟨-, other⟩ | ⟨rfl, probed⟩ | earlier
    · cases other
    · cases probed
      exact .inl ⟨seen, List.prefix_rfl⟩
    · exact faithful.due_later (List.prefix_append _ _) earlier isFile

theorem Faithful.enter_base {t : Trail} (faithful : Faithful files start t) {base : Path}
    (led : TransGen files.Leads start base) (located : files.isFile base = true) (fresh : t.hasVisited base = false) :
    Faithful files start ((t.visit base).add [.probed base, .opened base]) := by
  have more : opened ((t.visit base).add [.probed base, .opened base]).events = opened t.events ++ [base] := by
    simp [Trail.add, Trail.visit, opened]
  -- nothing is seen of a base that is entered, so the fresh alternative is due
  have unseen : ¬ Seen t.events base := by
    rw [← faithful.seen_iff, fresh]
    exact Bool.false_ne_true
  refine ⟨?_, ?_, ?_, ?_, ?_⟩
  · rw [more, List.map_append, List.reverse_append, ← faithful.visited]
    rfl
  · refine List.nodup_cons.mpr ⟨fun member => ?_, faithful.distinct⟩
    rw [← t.hasVisited_iff, fresh] at member
    cases member
  · intro p member
    rw [more] at member
    rcases List.mem_append.mp member with old | new
    · exact faithful.led p old
    · rw [List.mem_singleton.mp new]
      exact .inr ⟨led, located⟩
  · intro before p behind
    rcases prefix_two behind with ⟨-, other⟩ | ⟨-, other⟩ | earlier
    · cases other
    · cases other
    · exact faithful.cut before p earlier
  · intro before p behind isFile
    rcases prefix_two behind with ⟨-, other⟩ | ⟨rfl, probed⟩ | earlier
    · cases other
    · cases probed
      exact .inr ⟨unseen, List.prefix_rfl⟩
    · exact faithful.due_later (List.prefix_append _ _) earlier isFile

theorem Faithful.step {t t' : Trail} (faithful : Faithful files start t) (step : Step files start t t') :
    Faithful files start t' := by
  cases step with
  | quiet quiet => exact faithful.quiet quiet
  | begun => exact faithful_begun
  | cut led located seen => exact faithful.cut_base led located seen
  | entered led located fresh => exact faithful.enter_base led located fresh

theorem faithful_of_runs {t : Trail} (ran : Runs files start .start t) : Faithful files start t := by
  induction ran with
  | refl => exact faithful_start
  | tail _ step ih => exact ih.step step

theorem opened_mono {before events : List Event} (behind : before <+: events) {p : Path} (there : p ∈ opened before) :
    p ∈ opened events := by
  obtain ⟨rest, rfl⟩ := behind
  rw [opened_append]
  exact List.mem_append_left _ there

end ImportHooks.Tsconfig
