import ImportHooks.Proofs.Pattern.Search

namespace ImportHooks.Pattern
open Text

def Rounds (one : Cursor → Cursor → Prop) : Nat → Cursor → Cursor → Prop
  | 0, c, stop => c = stop
  | n + 1, c, stop => ∃ middle, one c middle ∧ Rounds one n middle stop

def Spells : Text → Cursor → Cursor → Prop
  | [], c, stop => c = stop
  | x :: text, c, stop => ∃ rest, c.after = x :: rest ∧ Spells text (c.next x rest) stop

-- From which place to which an expression takes a text. A repeat makes its least
-- number of rounds in any case.
def Expr.Matches : Expr → Cursor → Cursor → Prop
  | .empty, c, stop => c = stop
  | .literal text, c, stop => Spells text c stop
  | .set chars _, c, stop => ∃ x rest, c.after = x :: rest ∧ chars.mem x = true ∧ c.next x rest = stop
  | .look l, c, stop => l.holds c = true ∧ c = stop
  | .rep body least most _, c, stop =>
    ∃ n, least ≤ n ∧ (∀ m, most = some m → n ≤ max least m) ∧ Rounds body.Matches n c stop
  | .group _ body, c, stop => body.Matches c stop
  | .cat first rest, c, stop => ∃ middle, first.Matches c middle ∧ rest.Matches middle stop
  | .alt first rest, c, stop => first.Matches c stop ∨ rest.Matches c stop

theorem rounds_add {one : Cursor → Cursor → Prop} {n m : Nat} {c stop : Cursor} :
    Rounds one (n + m) c stop ↔ ∃ middle, Rounds one n c middle ∧ Rounds one m middle stop := by
  induction n generalizing c with
  | zero => simp [Rounds]
  | succ n ih =>
    rw [Nat.succ_add]
    simp only [Rounds, ih]
    constructor
    · rintro ⟨next, first, middle, others, last⟩
      exact ⟨middle, ⟨next, first, others⟩, last⟩
    · rintro ⟨middle, ⟨next, first, others⟩, last⟩
      exact ⟨next, first, middle, others, last⟩

variable {whole nodes : Nodes} {c stop : Cursor} {n k : Nat}

theorem mem_successors_one {chars : Charset} {next : Nat} {t : Task} (found : whole[n]? = some (.one chars next)) :
    t ∈ successors whole ⟨n, c⟩ ↔ ∃ x rest, c.after = x :: rest ∧ chars.mem x = true ∧ t = ⟨next, c.next x rest⟩ := by
  unfold successors
  simp only [found]
  cases after : c.after with
  | nil => simp
  | cons x rest => cases mem : chars.mem x <;> simp [mem]

theorem mem_successors_look {l : Look} {next : Nat} {t : Task} (found : whole[n]? = some (.look l next)) :
    t ∈ successors whole ⟨n, c⟩ ↔ l.holds c = true ∧ t = ⟨next, c⟩ := by
  unfold successors
  simp only [found]
  cases holds : l.holds c <;> simp

theorem mem_successors_forkTo {greedy : Bool} {round exit : Nat} {t : Task}
    (found : whole[n]? = some (Layout.forkTo greedy round exit)) :
    t ∈ successors whole ⟨n, c⟩ ↔ t = ⟨round, c⟩ ∨ t = ⟨exit, c⟩ := by
  unfold successors
  cases greedy with
  | true =>
    simp only [found, Layout.forkTo]
    simp
  | false =>
    simp only [found, Layout.forkTo]
    simp [or_comm]

theorem ends_step {t : Task} (unfinished : whole[t.node]? ≠ some .done) (ends : Ends whole k t stop) :
    ∃ next ∈ successors whole t, ∃ j < k, Ends whole j next stop := by
  cases ends with
  | here done => exact absurd done unfinished
  | further step rest => exact ⟨_, step, _, Nat.lt_succ_self _, rest⟩

def Holds (whole : Nodes) (least : Nat) (nodes : Nodes) : Prop :=
  ∀ i, least ≤ i → i < nodes.size → whole[i]? = nodes[i]?

-- Nodes that lead on to `next` from exactly the places that are matched. What is said
-- of them holds in every layout that they are part of.
structure Lays (lay : Nat → Nodes → Layout) (matched : Cursor → Cursor → Prop) : Prop where
  grows : ∀ next nodes, nodes.size ≤ (lay next nodes).nodes.size
  keeps : ∀ next nodes i, i < nodes.size → (lay next nodes).nodes[i]? = nodes[i]?
  leads : ∀ next nodes whole, Holds whole nodes.size (lay next nodes).nodes → ∀ k c stop,
    Ends whole k ⟨(lay next nodes).entry, c⟩ stop → ∃ middle, matched c middle ∧ ∃ j ≤ k, Ends whole j ⟨next, middle⟩ stop
  enters : ∀ next nodes whole, Holds whole nodes.size (lay next nodes).nodes → ∀ c middle stop,
    matched c middle → Reaches whole ⟨next, middle⟩ stop → Reaches whole ⟨(lay next nodes).entry, c⟩ stop

variable {lay other : Nat → Nodes → Layout} {matched matchedToo : Cursor → Cursor → Prop}

theorem Lays.congr (lays : Lays lay matched) (same : ∀ c stop, matched c stop ↔ matchedToo c stop) : Lays lay matchedToo := by
  have equal : matched = matchedToo := by
    funext c stop
    exact propext (same c stop)
  exact equal ▸ lays

theorem Lays.holds (lays : Lays lay matched) {least next : Nat} (held : Holds whole least (lay next nodes).nodes) :
    Holds whole least nodes := by
  intro i least small
  rw [held i least (Nat.lt_of_lt_of_le small (lays.grows next nodes)), lays.keeps next nodes i small]

theorem Holds.later {least more : Nat} (held : Holds whole least nodes) (behind : least ≤ more) : Holds whole more nodes :=
  fun i least small => held i (Nat.le_trans behind least) small

theorem lays_nothing : Lays (fun next nodes => ⟨nodes, next⟩) (· = ·) where
  grows _ _ := Nat.le_refl _
  keeps _ _ _ _ := rfl
  leads _ _ _ _ k c _ ends := ⟨c, rfl, k, Nat.le_refl k, ends⟩
  enters _ _ _ _ _ _ _ same reaches := same ▸ reaches

theorem add_size (node : Node) : (Layout.add nodes node).nodes.size = nodes.size + 1 := Array.size_push _

theorem add_keeps (node : Node) {i : Nat} (small : i < nodes.size) : (Layout.add nodes node).nodes[i]? = nodes[i]? := by
  simp only [Layout.add, Array.getElem?_push, if_neg (Nat.ne_of_lt small)]

theorem add_holds {least : Nat} {node : Node} (held : Holds whole least (Layout.add nodes node).nodes)
    (least_le : least ≤ nodes.size) : whole[nodes.size]? = some node := by
  rw [held nodes.size least_le (by rw [add_size]; exact Nat.lt_succ_self _)]
  simp [Layout.add]

theorem lays_add {node : Nat → Node} (unfinished : ∀ next, node next ≠ .done)
    (steps : ∀ whole next n, whole[n]? = some (node next) → ∀ c t,
      t ∈ successors whole ⟨n, c⟩ ↔ ∃ middle, matched c middle ∧ t = ⟨next, middle⟩) :
    Lays (fun next nodes => Layout.add nodes (node next)) matched where
  grows next nodes := by
    rw [add_size]
    exact Nat.le_succ _
  keeps next nodes i small := add_keeps _ small
  leads next nodes whole held k c stop ends := by
    have found := add_holds held (Nat.le_refl _)
    have alive : whole[nodes.size]? ≠ some .done := by
      rw [found]
      exact fun same => unfinished next (Option.some.inj same)
    obtain ⟨t, step, j, less, rest⟩ := ends_step alive ends
    obtain ⟨middle, takes, rfl⟩ := (steps whole next _ found c t).mp step
    exact ⟨middle, takes, j, Nat.le_of_lt less, rest⟩
  enters next nodes whole held c middle stop takes reaches :=
    reaches.further ((steps whole next _ (add_holds held (Nat.le_refl _)) c _).mpr ⟨middle, takes, rfl⟩)

theorem lays_one (chars : Charset) : Lays (fun next nodes => Layout.add nodes (.one chars next))
    fun c stop => ∃ x rest, c.after = x :: rest ∧ chars.mem x = true ∧ c.next x rest = stop := by
  refine lays_add (fun next => nofun) fun whole next n found c t => ?_
  rw [mem_successors_one found]
  constructor
  · rintro ⟨x, rest, after, mem, rfl⟩
    exact ⟨_, ⟨x, rest, after, mem, rfl⟩, rfl⟩
  · rintro ⟨middle, ⟨x, rest, after, mem, rfl⟩, rfl⟩
    exact ⟨x, rest, after, mem, rfl⟩

theorem lays_look (l : Look) : Lays (fun next nodes => Layout.add nodes (.look l next))
    fun c stop => l.holds c = true ∧ c = stop := by
  refine lays_add (fun next => nofun) fun whole next n found c t => ?_
  rw [mem_successors_look found]
  constructor
  · rintro ⟨holds, rfl⟩
    exact ⟨c, ⟨holds, rfl⟩, rfl⟩
  · rintro ⟨middle, ⟨holds, rfl⟩, rfl⟩
    exact ⟨holds, rfl⟩

theorem Lays.before (lays : Lays lay matched) (laysToo : Lays other matchedToo) :
    Lays (fun next nodes => lay (other next nodes).entry (other next nodes).nodes)
      fun c stop => ∃ middle, matched c middle ∧ matchedToo middle stop where
  grows next nodes := Nat.le_trans (laysToo.grows next nodes) (lays.grows _ _)
  keeps next nodes i small := by
    rw [lays.keeps _ _ i (Nat.lt_of_lt_of_le small (laysToo.grows next nodes)), laysToo.keeps next nodes i small]
  leads next nodes whole held k c stop ends := by
    obtain ⟨middle, takes, j, less, rest⟩ := lays.leads _ _ whole (held.later (laysToo.grows next nodes)) k c stop ends
    obtain ⟨last, takesToo, i, lessToo, final⟩ := laysToo.leads next nodes whole (lays.holds held) j middle stop rest
    exact ⟨last, ⟨middle, takes, takesToo⟩, i, Nat.le_trans lessToo less, final⟩
  enters next nodes whole held c last stop := by
    rintro ⟨middle, takes, takesToo⟩ reaches
    have behind := laysToo.enters next nodes whole (lays.holds held) middle last stop takesToo reaches
    exact lays.enters _ _ whole (held.later (laysToo.grows next nodes)) c middle stop takes behind

theorem add_held {least : Nat} {node : Node} (held : Holds whole least (Layout.add nodes node).nodes) :
    Holds whole least nodes := by
  intro i behind small
  rw [held i behind (by rw [add_size]; exact Nat.lt_succ_of_lt small), add_keeps _ small]

theorem alive_forkTo {greedy : Bool} {round exit : Nat} (found : whole[n]? = some (Layout.forkTo greedy round exit)) :
    whole[n]? ≠ some .done := by
  rw [found]
  cases greedy <;> exact nofun

theorem lays_fork (greedy : Bool) (lays : Lays lay matched) (laysToo : Lays other matchedToo) :
    Lays (fun next nodes => Layout.add (other next (lay next nodes).nodes).nodes
        (Layout.forkTo greedy (lay next nodes).entry (other next (lay next nodes).nodes).entry))
      fun c stop => matched c stop ∨ matchedToo c stop where
  grows next nodes := by
    rw [add_size]
    exact Nat.le_succ_of_le (Nat.le_trans (lays.grows next nodes) (laysToo.grows _ _))
  keeps next nodes i small := by
    have inside := Nat.lt_of_lt_of_le small (lays.grows next nodes)
    rw [add_keeps _ (Nat.lt_of_lt_of_le inside (laysToo.grows _ _)), laysToo.keeps _ _ i inside, lays.keeps next nodes i small]
  leads next nodes whole held k c stop ends := by
    have grown := lays.grows next nodes
    have found := add_holds held (Nat.le_trans grown (laysToo.grows _ _))
    obtain ⟨t, step, j, less, rest⟩ := ends_step (alive_forkTo found) ends
    rcases (mem_successors_forkTo found).mp step with rfl | rfl
    · obtain ⟨middle, takes, i, lessToo, final⟩ := lays.leads next nodes whole (laysToo.holds (add_held held)) j c stop rest
      exact ⟨middle, .inl takes, i, by omega, final⟩
    · obtain ⟨middle, takes, i, lessToo, final⟩ := laysToo.leads next _ whole ((add_held held).later grown) j c stop rest
      exact ⟨middle, .inr takes, i, by omega, final⟩
  enters next nodes whole held c middle stop := by
    have grown := lays.grows next nodes
    have found := add_holds held (Nat.le_trans grown (laysToo.grows _ _))
    rintro (takes | takes) reaches
    · have behind := lays.enters next nodes whole (laysToo.holds (add_held held)) c middle stop takes reaches
      exact behind.further ((mem_successors_forkTo found).mpr (.inl rfl))
    · have behind := laysToo.enters next _ whole ((add_held held).later grown) c middle stop takes reaches
      exact behind.further ((mem_successors_forkTo found).mpr (.inr rfl))

theorem mem_char {x d : Char} : (Charset.char d).mem x = true ↔ x = d := by
  simp only [Charset.mem, Charset.char, Charset.range, holds, Bool.or_false, Bool.and_eq_true, decide_eq_true_eq]
  rw [← Char.toNat_inj]
  omega

theorem lays_literal (text : Text) : Lays (Layout.literal text) (Spells text) := by
  induction text with
  | nil => exact lays_nothing
  | cons d text ih =>
    refine (Lays.before (lays_one (.char d)) ih).congr fun c stop => ?_
    simp only [Spells, mem_char]
    constructor
    · rintro ⟨middle, ⟨x, rest, after, rfl, rfl⟩, spells⟩
      exact ⟨rest, after, spells⟩
    · rintro ⟨rest, after, spells⟩
      exact ⟨_, ⟨d, rest, after, rfl, rfl⟩, spells⟩

theorem copies_succ (body : Nat → Nodes → Layout) (n : Nat) (l : Layout) :
    Layout.copies body (n + 1) l = body (Layout.copies body n l).entry (Layout.copies body n l).nodes := by
  induction n generalizing l with
  | zero => rfl
  | succ n ih => exact ih (body l.entry l.nodes)

theorem options_succ (body : Nat → Nodes → Layout) (greedy : Bool) (exit n : Nat) (l : Layout) :
    Layout.options body greedy exit (n + 1) l =
      let rest := Layout.options body greedy exit n l
      let round := body rest.entry rest.nodes
      Layout.add round.nodes (Layout.forkTo greedy round.entry exit) := by
  induction n generalizing l with
  | zero => rfl
  | succ n ih => exact ih _

theorem loop_size (body : Nat → Nodes → Layout) (greedy : Bool) (exit : Nat) (nodes : Nodes) :
    (Layout.loop body greedy exit nodes).1.nodes.size = (body nodes.size (nodes.push .done)).nodes.size :=
  Array.size_setIfInBounds

section Repeats

variable {body : Nat → Nodes → Layout} {one : Cursor → Cursor → Prop} (lays : Lays body one)
include lays

theorem lays_copies (laysToo : Lays other matchedToo) (n : Nat) :
    Lays (fun next nodes => Layout.copies body n (other next nodes))
      fun c stop => ∃ middle, Rounds one n c middle ∧ matchedToo middle stop := by
  induction n with
  | zero => exact laysToo.congr fun c stop => by simp [Rounds]
  | succ n ih =>
    have more := lays.before ih
    simp only [copies_succ]
    refine more.congr fun c stop => ?_
    simp only [Rounds]
    constructor
    · rintro ⟨middle, first, last, others, takes⟩
      exact ⟨last, ⟨middle, first, others⟩, takes⟩
    · rintro ⟨last, ⟨middle, first, others⟩, takes⟩
      exact ⟨middle, first, last, others, takes⟩

theorem lays_options (greedy : Bool) (n : Nat) :
    Lays (fun next nodes => Layout.options body greedy next n ⟨nodes, next⟩) fun c stop => ∃ m ≤ n, Rounds one m c stop := by
  induction n with
  | zero => exact lays_nothing.congr fun c stop => by simp [Rounds]
  | succ n ih =>
    have more := lays_fork greedy (lays.before ih) lays_nothing
    simp only [options_succ]
    refine more.congr fun c stop => ?_
    constructor
    · rintro (⟨middle, first, m, most, others⟩ | rfl)
      · exact ⟨m + 1, by omega, middle, first, others⟩
      · exact ⟨0, Nat.zero_le _, rfl⟩
    · rintro ⟨m, most, rounds⟩
      cases m with
      | zero => exact .inr rounds
      | succ m =>
        obtain ⟨middle, first, others⟩ := rounds
        exact .inl ⟨middle, first, m, by omega, others⟩

theorem loop_grows (greedy : Bool) (exit : Nat) (nodes : Nodes) :
    nodes.size < (Layout.loop body greedy exit nodes).1.nodes.size := by
  rw [loop_size]
  have grown := lays.grows nodes.size (nodes.push .done)
  rwa [Array.size_push] at grown

theorem loop_keeps (greedy : Bool) (exit : Nat) (nodes : Nodes) (i : Nat) (small : i < nodes.size) :
    (Layout.loop body greedy exit nodes).1.nodes[i]? = nodes[i]? := by
  have within : i < (nodes.push Node.done).size := by
    rw [Array.size_push]
    exact Nat.lt_succ_of_lt small
  simp only [Layout.loop, Array.getElem?_setIfInBounds, if_neg (Nat.ne_of_gt small), lays.keeps _ _ i within,
    Array.getElem?_push, if_neg (Nat.ne_of_lt small)]

theorem loop_holds {greedy : Bool} {exit : Nat} (held : Holds whole nodes.size (Layout.loop body greedy exit nodes).1.nodes) :
    whole[nodes.size]? = some (Layout.forkTo greedy (body nodes.size (nodes.push .done)).entry exit) ∧
      Holds whole (nodes.push Node.done).size (body nodes.size (nodes.push .done)).nodes := by
  have grown := loop_grows lays greedy exit nodes
  constructor
  · rw [held _ (Nat.le_refl _) grown]
    rw [loop_size] at grown
    simp only [Layout.loop, Array.getElem?_setIfInBounds, if_true, grown]
  · intro i behind small
    rw [Array.size_push] at behind
    rw [held i (Nat.le_of_succ_le behind) (by rwa [loop_size])]
    simp only [Layout.loop, Array.getElem?_setIfInBounds, if_neg (Nat.ne_of_lt behind)]

theorem loop_leads {greedy : Bool} {exit : Nat} (held : Holds whole nodes.size (Layout.loop body greedy exit nodes).1.nodes)
    (ends : Ends whole k ⟨nodes.size, c⟩ stop) :
    ∃ n middle, Rounds one n c middle ∧ ∃ j ≤ k, Ends whole j ⟨exit, middle⟩ stop := by
  obtain ⟨found, inside⟩ := loop_holds lays held
  -- on the steps that are left: a round that comes back to the fork leaves fewer
  induction k using Nat.strongRecOn generalizing c with
  | ind k ih =>
    obtain ⟨t, step, j, less, rest⟩ := ends_step (alive_forkTo found) ends
    rcases (mem_successors_forkTo found).mp step with rfl | rfl
    · obtain ⟨next, takes, i, lessToo, again⟩ := lays.leads _ _ whole inside j c stop rest
      obtain ⟨n, middle, rounds, m, most, final⟩ := ih i (by omega) again
      exact ⟨n + 1, middle, ⟨next, takes, rounds⟩, m, by omega, final⟩
    · exact ⟨0, c, rfl, j, Nat.le_of_lt less, rest⟩

theorem loop_enters {greedy : Bool} {exit : Nat} {middle : Cursor}
    (held : Holds whole nodes.size (Layout.loop body greedy exit nodes).1.nodes) (rounds : Rounds one n c middle)
    (reaches : Reaches whole ⟨exit, middle⟩ stop) : Reaches whole ⟨nodes.size, c⟩ stop := by
  obtain ⟨found, inside⟩ := loop_holds lays held
  induction n generalizing c with
  | zero =>
    cases rounds
    exact reaches.further ((mem_successors_forkTo found).mpr (.inr rfl))
  | succ n ih =>
    obtain ⟨next, takes, others⟩ := rounds
    have entered := lays.enters _ _ whole inside c next stop takes (ih others)
    exact entered.further ((mem_successors_forkTo found).mpr (.inl rfl))

theorem lays_star (greedy : Bool) :
    Lays (fun next nodes => ⟨(Layout.loop body greedy next nodes).1.nodes, (Layout.loop body greedy next nodes).2⟩)
      fun c stop => ∃ n, Rounds one n c stop where
  grows next nodes := Nat.le_of_lt (loop_grows lays greedy next nodes)
  keeps next nodes := loop_keeps lays greedy next nodes
  leads next nodes whole held k c stop ends := by
    obtain ⟨n, middle, rounds, rest⟩ := loop_leads lays held ends
    exact ⟨middle, ⟨n, rounds⟩, rest⟩
  enters next nodes whole held c middle stop := by
    rintro ⟨n, rounds⟩ reaches
    exact loop_enters lays held rounds reaches

theorem lays_plus (greedy : Bool) :
    Lays (fun next nodes => (Layout.loop body greedy next nodes).1) fun c stop => ∃ n, Rounds one (n + 1) c stop where
  grows next nodes := Nat.le_of_lt (loop_grows lays greedy next nodes)
  keeps next nodes := loop_keeps lays greedy next nodes
  leads next nodes whole held k c stop ends := by
    obtain ⟨next', takes, i, less, again⟩ := lays.leads _ _ whole (loop_holds lays held).2 k c stop ends
    obtain ⟨n, middle, rounds, j, most, rest⟩ := loop_leads lays held again
    exact ⟨middle, ⟨n, next', takes, rounds⟩, j, Nat.le_trans most less, rest⟩
  enters next nodes whole held c middle stop := by
    rintro ⟨n, next', takes, rounds⟩ reaches
    exact lays.enters _ _ whole (loop_holds lays held).2 c next' stop takes (loop_enters lays held rounds reaches)

end Repeats

theorem any_rounds {one : Cursor → Cursor → Prop} :
    (∃ n, Rounds one (n + 1) c stop) ∨ c = stop ↔ ∃ n, Rounds one n c stop := by
  constructor
  · rintro (⟨n, rounds⟩ | here)
    · exact ⟨n + 1, rounds⟩
    · exact ⟨0, here⟩
  · rintro ⟨n, rounds⟩
    cases n with
    | zero => exact .inr rounds
    | succ n => exact .inl ⟨n, rounds⟩

theorem rounds_at_least {one : Cursor → Cursor → Prop} {least : Nat} :
    (∃ middle, Rounds one least c middle ∧ ∃ n, Rounds one (n + 1) middle stop) ↔
      ∃ n, least + 1 ≤ n ∧ Rounds one n c stop := by
  constructor
  · rintro ⟨middle, first, n, others⟩
    exact ⟨least + (n + 1), by omega, rounds_add.mpr ⟨middle, first, others⟩⟩
  · rintro ⟨n, more, rounds⟩
    obtain ⟨extra, rfl⟩ := Nat.exists_eq_add_of_le more
    rw [Nat.add_assoc, Nat.add_comm 1] at rounds
    obtain ⟨middle, first, others⟩ := rounds_add.mp rounds
    exact ⟨middle, first, extra, others⟩

theorem rounds_between {one : Cursor → Cursor → Prop} {least most : Nat} :
    (∃ middle, Rounds one least c middle ∧ ∃ n ≤ most - least, Rounds one n middle stop) ↔
      ∃ n, least ≤ n ∧ n ≤ max least most ∧ Rounds one n c stop := by
  constructor
  · rintro ⟨middle, first, n, few, others⟩
    exact ⟨least + n, by omega, by omega, rounds_add.mpr ⟨middle, first, others⟩⟩
  · rintro ⟨n, more, few, rounds⟩
    obtain ⟨extra, rfl⟩ := Nat.exists_eq_add_of_le more
    obtain ⟨middle, first, others⟩ := rounds_add.mp rounds
    exact ⟨middle, first, extra, by omega, others⟩

theorem lays_layOut (e : Expr) : Lays e.layOut e.Matches := by
  induction e with
  | empty => exact lays_nothing
  | literal text => exact lays_literal text
  | set chars wide => exact lays_one chars
  | look l => exact lays_look l
  | group index body ih => exact ih
  | cat first rest ihFirst ihRest => exact ihFirst.before ihRest
  | alt first rest ihFirst ihRest => exact lays_fork true ihFirst ihRest
  | rep body least most greedy ih =>
    cases most with
    | some most =>
      refine (lays_copies ih (lays_options ih greedy (most - least)) least).congr fun c stop => ?_
      rw [rounds_between]
      simp [Expr.Matches]
    | none =>
      cases least with
      | succ least =>
        refine (lays_copies ih (lays_plus ih greedy) least).congr fun c stop => ?_
        rw [rounds_at_least]
        simp [Expr.Matches]
      | zero =>
        by_cases long : body.minLength?.any (0 < ·) = true
        · have same : (Expr.rep body 0 none greedy).layOut = fun next nodes =>
              ⟨(Layout.loop body.layOut greedy next nodes).1.nodes, (Layout.loop body.layOut greedy next nodes).2⟩ := by
            funext next nodes
            simp only [Expr.layOut, if_pos long]
          rw [same]
          refine (lays_star ih greedy).congr fun c stop => ?_
          simp [Expr.Matches]
        · have same : (Expr.rep body 0 none greedy).layOut = fun next nodes =>
              .add (Layout.loop body.layOut greedy next nodes).1.nodes
                (Layout.forkTo greedy (Layout.loop body.layOut greedy next nodes).1.entry next) := by
            funext next nodes
            simp only [Expr.layOut, if_neg long]
          rw [same]
          refine (lays_fork greedy (lays_plus ih greedy) lays_nothing).congr fun c stop => ?_
          rw [any_rounds]
          simp [Expr.Matches]

theorem Program.ofExpr_reaches (e : Expr) (c stop : Cursor) :
    Reaches (Program.ofExpr e).nodes ⟨(Program.ofExpr e).entry, c⟩ stop ↔ e.Matches c stop := by
  have lays := lays_layOut e
  have last : (e.layOut 0 #[.done]).nodes[0]? = some .done := by
    rw [lays.keeps 0 #[.done] 0 (Nat.succ_pos _)]
    rfl
  constructor
  · rintro ⟨k, ends⟩
    obtain ⟨middle, matched, j, -, rest⟩ := lays.leads 0 #[.done] _ (fun _ _ _ => rfl) k c stop ends
    cases rest with
    | here => exact matched
    | further step =>
      simp only [successors, last] at step
      cases step
  · intro matched
    exact lays.enters 0 #[.done] _ (fun _ _ _ => rfl) c stop stop matched ⟨0, .here last⟩

theorem Expr.find?_leftmost (e : Expr) (text : Text) :
    match e.find? text with
    | some (first, stop) => ∃ k ≤ text.length, first = cursorAt text k ∧ e.Matches first stop ∧
        ∀ j < k, ∀ stop, ¬ e.Matches (cursorAt text j) stop
    | none => ∀ j ≤ text.length, ∀ stop, ¬ e.Matches (cursorAt text j) stop := by
  have found := Program.find?_leftmost (Program.ofExpr e) text
  simp only [Barren, Program.ofExpr_reaches] at found
  exact found

end ImportHooks.Pattern
