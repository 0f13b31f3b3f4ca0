import Mathlib.Data.Finset.Card
import Mathlib.Data.Finset.Prod
import ImportHooks.Pattern.Search

namespace ImportHooks.Pattern
open Text

namespace Visits

def mark (size node : Nat) (row : Array Nat) : Array Nat :=
  let row := if row.isEmpty then .replicate (size / wordSize + 1) 0 else row
  row.modify (node / wordSize) (· ||| 1 <<< (node % wordSize))

def rowBit (row : Array Nat) (node : Nat) : Bool := (row[node / wordSize]?.getD 0).testBit (node % wordSize)

def Counted (size node : Nat) : Prop := node / wordSize < size / wordSize + 1

theorem counted_of_lt {size node : Nat} (small : node < size) : Counted size node :=
  Nat.lt_succ_of_le (Nat.div_le_div_right (Nat.le_of_lt small))

theorem same_of_word {n m : Nat} (word : n / wordSize = m / wordSize) (place : n % wordSize = m % wordSize) : n = m := by
  rw [← Nat.div_add_mod n wordSize, word, place, Nat.div_add_mod]

theorem rowBit_mark {size node : Nat} {row : Array Nat} (made : row = #[] ∨ row.size = size / wordSize + 1) (n : Nat) :
    rowBit (mark size node row) n = true ↔ rowBit row n = true ∨ (n = node ∧ Counted size node) := by
  -- a row of zeros in the place of one that is not made yet has the same bits
  obtain ⟨whole, same, wide, marked⟩ : ∃ whole : Array Nat, rowBit whole n = rowBit row n ∧
      whole.size = size / wordSize + 1 ∧
      mark size node row = whole.modify (node / wordSize) (· ||| 1 <<< (node % wordSize)) := by
    rcases made with rfl | wide
    · refine ⟨.replicate (size / wordSize + 1) 0, ?_, Array.size_replicate, rfl⟩
      simp only [rowBit, Array.getElem?_replicate]
      split <;> simp
    · refine ⟨row, rfl, wide, ?_⟩
      have given : row.isEmpty = false := by simp [Array.isEmpty, wide]
      simp [mark, given]
  rw [← same, marked]
  unfold rowBit
  rw [Array.getElem?_modify]
  split
  · rename_i word
    cases found : whole[n / wordSize]? with
    | none =>
      have outside : ¬ Counted size node := by
        unfold Counted
        rw [word, ← wide]
        exact Nat.not_lt.mpr (Array.getElem?_eq_none_iff.mp found)
      simp [outside]
    | some w =>
      have inside : Counted size node := by
        unfold Counted
        rw [word, ← wide]
        exact (Array.getElem?_eq_some_iff.mp found).1
      have sameNode : node % wordSize = n % wordSize ↔ n = node :=
        ⟨fun place => (same_of_word word place).symm, fun equal => by rw [equal]⟩
      simp [Nat.one_shiftLeft, Nat.testBit_or, Nat.testBit_two_pow, inside, sameNode]
  · rename_i other
    have apart : n ≠ node := by
      rintro rfl
      exact other rfl
    simp [apart]

def bit (v : Visits) (node offset : Nat) : Bool := v.rows[offset]?.any (rowBit · node)

theorem contains_eq_bit (v : Visits) (t : Task) : v.contains t = v.bit t.node t.place.offset := by
  unfold contains bit
  cases v.rows[t.place.offset]? <;> rfl

structure Fits (v : Visits) (places : Nat) : Prop where
  rows : v.rows.size = places
  made : ∀ (offset : Nat) row, v.rows[offset]? = some row → row = #[] ∨ row.size = v.size / wordSize + 1

theorem fits_none (size places : Nat) : (none size places).Fits places := by
  refine ⟨Array.size_replicate, fun offset row found => .inl ?_⟩
  simp only [none, Array.getElem?_replicate] at found
  split at found
  · exact (Option.some.inj found).symm
  · cases found

theorem bit_none (size places node offset : Nat) : (none size places).bit node offset = false := by
  simp only [bit, none, Array.getElem?_replicate]
  split <;> simp [rowBit]

theorem insert_rows (v : Visits) (t : Task) : (v.insert t).rows = v.rows.modify t.place.offset (mark v.size t.node) := rfl

variable {v : Visits} {places : Nat}

theorem Fits.insert (fits : v.Fits places) (t : Task) : (v.insert t).Fits places := by
  refine ⟨by rw [insert_rows, Array.size_modify, fits.rows], fun offset row found => ?_⟩
  rw [insert_rows, Array.getElem?_modify] at found
  split at found
  · obtain ⟨earlier, there, rfl⟩ := Option.map_eq_some_iff.mp found
    refine .inr ?_
    show (mark v.size t.node earlier).size = v.size / wordSize + 1
    rcases fits.made offset earlier there with rfl | wide
    · simp [mark]
    · have given : earlier.isEmpty = false := by simp [Array.isEmpty, wide]
      simp [mark, given, wide]
  · exact fits.made offset row found

theorem Fits.bit_insert (fits : v.Fits places) (t : Task) (node offset : Nat) :
    (v.insert t).bit node offset = true ↔ v.bit node offset = true ∨
      (node = t.node ∧ offset = t.place.offset ∧ offset < places ∧ Counted v.size t.node) := by
  unfold bit
  rw [insert_rows, Array.getElem?_modify]
  split
  · rename_i here
    cases found : v.rows[offset]? with
    | none =>
      have outside : ¬ offset < places := by
        rw [← fits.rows]
        exact Nat.not_lt.mpr (Array.getElem?_eq_none_iff.mp found)
      simp [outside]
    | some row =>
      have inside : offset < places := by
        rw [← fits.rows]
        exact (Array.getElem?_eq_some_iff.mp found).1
      simp [rowBit_mark (fits.made offset row found), here, inside]
  · rename_i other
    simp [Ne.symm other]

def left (v : Visits) (places : Nat) : Nat :=
  ((Finset.range v.size ×ˢ Finset.range places).filter fun pair => v.bit pair.1 pair.2 = false).card

theorem left_le (v : Visits) (places : Nat) : v.left places ≤ v.size * places := by
  have bound := Finset.card_filter_le (Finset.range v.size ×ˢ Finset.range places) fun pair => v.bit pair.1 pair.2 = false
  rwa [Finset.card_product, Finset.card_range, Finset.card_range] at bound

theorem Fits.left_insert_subset (fits : v.Fits places) (t : Task) :
    ((Finset.range (v.insert t).size ×ˢ Finset.range places).filter fun pair => (v.insert t).bit pair.1 pair.2 = false) ⊆
      ((Finset.range v.size ×ˢ Finset.range places).filter fun pair => v.bit pair.1 pair.2 = false) := by
  intro pair member
  rw [Finset.mem_filter] at member ⊢
  refine ⟨member.1, ?_⟩
  rw [Bool.eq_false_iff]
  intro visited
  have later := (fits.bit_insert t pair.1 pair.2).mpr (.inl visited)
  rw [member.2] at later
  cases later

theorem Fits.left_insert_le (fits : v.Fits places) (t : Task) : (v.insert t).left places ≤ v.left places :=
  Finset.card_le_card (fits.left_insert_subset t)

theorem Fits.left_insert_lt (fits : v.Fits places) {t : Task} (node : t.node < v.size) (place : t.place.offset < places)
    (fresh : v.contains t = false) : (v.insert t).left places < v.left places := by
  refine Finset.card_lt_card ⟨fits.left_insert_subset t, fun back => ?_⟩
  rw [contains_eq_bit] at fresh
  have before : (t.node, t.place.offset) ∈
      (Finset.range v.size ×ˢ Finset.range places).filter fun pair => v.bit pair.1 pair.2 = false :=
    Finset.mem_filter.mpr ⟨Finset.mem_product.mpr ⟨Finset.mem_range.mpr node, Finset.mem_range.mpr place⟩, fresh⟩
  have after := (Finset.mem_filter.mp (back before)).2
  have marked := (fits.bit_insert t t.node t.place.offset).mpr (.inr ⟨rfl, rfl, place, counted_of_lt node⟩)
  rw [after] at marked
  cases marked

end Visits

def successors (nodes : Nodes) (t : Task) : List Task :=
  match nodes[t.node]? with
  | some (.one chars next) =>
    match t.place.after with
    | x :: rest => if chars.mem x then [⟨next, t.place.next x rest⟩] else []
    | [] => []
  | some (.look l next) => if l.holds t.place then [⟨next, t.place⟩] else []
  | some (.fork first second) => [⟨first, t.place⟩, ⟨second, t.place⟩]
  | some .done | none => []

inductive Ends (nodes : Nodes) : Nat → Task → Cursor → Prop where
  | here {node place} (done : nodes[node]? = some .done) : Ends nodes 0 ⟨node, place⟩ place
  | further {k t next stop} (step : next ∈ successors nodes t) (rest : Ends nodes k next stop) : Ends nodes (k + 1) t stop

def Reaches (nodes : Nodes) (t : Task) (stop : Cursor) : Prop := ∃ k, Ends nodes k t stop

theorem Reaches.further {nodes : Nodes} {t next : Task} {stop : Cursor} (step : next ∈ successors nodes t)
    (reaches : Reaches nodes next stop) : Reaches nodes t stop := by
  obtain ⟨k, ends⟩ := reaches
  exact ⟨k + 1, .further step ends⟩

theorem successors_length (nodes : Nodes) (t : Task) : (successors nodes t).length ≤ 2 := by
  unfold successors
  split
  · split
    · split <;> simp
    · simp
  · split <;> simp
  · simp
  · simp
  · simp

theorem explore_cons (p : Program) (rounds : Nat) (task : Task) (tasks : List Task) (visits : Visits) :
    p.explore (rounds + 1) (task :: tasks) visits =
      if visits.contains task then p.explore rounds tasks visits
      else if p.nodes[task.node]? = some .done then (some task.place, visits.insert task)
      else p.explore rounds (successors p.nodes task ++ tasks) (visits.insert task) := by
  rw [Program.explore]
  split
  · rfl
  · unfold successors
    cases found : p.nodes[task.node]? with
    | none => simp
    | some node =>
      cases node with
      | one chars next =>
        cases task.place.after with
        | nil => simp
        | cons x rest => cases mem : chars.mem x <;> simp [mem]
      | look l next => cases holds : l.holds task.place <;> simp [holds]
      | fork first second => simp
      | done => simp

theorem explore_sound {p : Program} {rounds : Nat} {tasks : List Task} {visits : Visits} {stop : Cursor}
    (found : (p.explore rounds tasks visits).1 = some stop) : ∃ t ∈ tasks, Reaches p.nodes t stop := by
  induction rounds generalizing tasks visits with
  | zero => simp [Program.explore] at found
  | succ rounds ih =>
    cases tasks with
    | nil => simp [Program.explore] at found
    | cons task tasks =>
      rw [explore_cons] at found
      split at found
      · obtain ⟨t, member, reaches⟩ := ih found
        exact ⟨t, List.mem_cons_of_mem _ member, reaches⟩
      · split at found
        · rename_i done
          cases Option.some.inj found
          exact ⟨task, List.mem_cons_self, 0, .here done⟩
        · obtain ⟨t, member, reaches⟩ := ih found
          rcases List.mem_append.mp member with next | later
          · exact ⟨task, List.mem_cons_self, reaches.further next⟩
          · exact ⟨t, List.mem_cons_of_mem _ later, reaches⟩

def cursorAt (text : Text) (offset : Nat) : Cursor := ⟨offset, (text.take offset).getLast?, text.drop offset⟩

def Cursor.IsIn (text : Text) (c : Cursor) : Prop := c.offset ≤ text.length ∧ c = cursorAt text c.offset

theorem isIn_cursorAt {text : Text} {offset : Nat} (inside : offset ≤ text.length) : (cursorAt text offset).IsIn text :=
  ⟨inside, rfl⟩

theorem lt_length_of_drop {text rest : Text} {x : Char} {offset : Nat} (behind : text.drop offset = x :: rest) :
    offset < text.length := by
  rw [← Nat.not_le]
  intro beyond
  rw [List.drop_eq_nil_of_le beyond] at behind
  cases behind

theorem cursorAt_next {text rest : Text} {x : Char} {offset : Nat} (behind : text.drop offset = x :: rest) :
    cursorAt text (offset + 1) = (cursorAt text offset).next x rest := by
  have inside := lt_length_of_drop behind
  have here : text[offset] = x ∧ text.drop (offset + 1) = rest := by
    rw [List.drop_eq_getElem_cons inside] at behind
    exact List.cons.inj behind
  simp only [cursorAt, Cursor.next, here.2, List.take_succ_eq_append_getElem inside, here.1, List.getLast?_concat]

theorem isIn_successor {nodes : Nodes} {text : Text} {t next : Task} (placed : t.place.IsIn text)
    (step : next ∈ successors nodes t) : next.place.IsIn text := by
  unfold successors at step
  split at step
  · split at step
    · rename_i x rest behind
      split at step
      · rw [List.mem_singleton.mp step]
        have after : text.drop t.place.offset = x :: rest := by
          rw [← behind, placed.2]
          rfl
        have moved : t.place.next x rest = cursorAt text (t.place.offset + 1) := by
          rw [cursorAt_next after, ← placed.2]
        rw [moved]
        exact isIn_cursorAt (lt_length_of_drop after)
      · cases step
    · cases step
  · split at step
    · rw [List.mem_singleton.mp step]
      exact placed
    · cases step
  · simp only [List.mem_cons, List.not_mem_nil, or_false] at step
    rcases step with rfl | rfl
    · exact placed
    · exact placed
  · cases step
  · cases step

-- What was visited holds no end, and leads to what was visited, to a task that is
-- still to come, or nowhere.
structure Closed (nodes : Nodes) (text : Text) (visits : Visits) (tasks : List Task) : Prop where
  size : visits.size = nodes.size
  fits : visits.Fits (text.length + 1)
  placed : ∀ t ∈ tasks, t.place.IsIn text
  endless : ∀ t, t.place.IsIn text → visits.contains t = true → nodes[t.node]? ≠ some .done
  leads : ∀ t, t.place.IsIn text → visits.contains t = true → ∀ next ∈ successors nodes t,
    visits.contains next = true ∨ next ∈ tasks ∨ nodes[next.node]? = none

variable {nodes : Nodes} {text : Text} {visits : Visits} {tasks : List Task}

theorem Closed.pop {task : Task} (closed : Closed nodes text visits (task :: tasks))
    (visited : visits.contains task = true) : Closed nodes text visits tasks := by
  refine ⟨closed.size, closed.fits, fun t member => closed.placed t (List.mem_cons_of_mem _ member), closed.endless, ?_⟩
  intro t placed seen next step
  rcases closed.leads t placed seen next step with known | pending | dead
  · exact .inl known
  · rcases List.mem_cons.mp pending with rfl | later
    · exact .inl visited
    · exact .inr (.inl later)
  · exact .inr (.inr dead)

theorem Closed.contains_insert (closed : Closed nodes text visits tasks) (task : Task) {t : Task} :
    (visits.insert task).contains t = true ↔ visits.contains t = true ∨
      (t.node = task.node ∧ t.place.offset = task.place.offset ∧ t.place.offset < text.length + 1 ∧
        Visits.Counted visits.size task.node) := by
  rw [Visits.contains_eq_bit, Visits.contains_eq_bit, closed.fits.bit_insert]

theorem same_task {t task : Task} (placed : t.place.IsIn text) (placedToo : task.place.IsIn text) (node : t.node = task.node)
    (offset : t.place.offset = task.place.offset) : t = task := by
  obtain ⟨n, place⟩ := t
  obtain ⟨m, other⟩ := task
  have offset : place.offset = other.offset := offset
  have place : place = other := by
    calc place = cursorAt text place.offset := placed.2
      _ = cursorAt text other.offset := by rw [offset]
      _ = other := placedToo.2.symm
  rw [place, show n = m from node]

theorem Closed.push {task : Task} (closed : Closed nodes text visits (task :: tasks))
    (unfinished : nodes[task.node]? ≠ some .done) :
    Closed nodes text (visits.insert task) (successors nodes task ++ tasks) := by
  have here := closed.placed task List.mem_cons_self
  have split {t : Task} (placed : t.place.IsIn text) (seen : (visits.insert task).contains t = true) :
      visits.contains t = true ∨ t = task := by
    rcases (closed.contains_insert task).mp seen with old | ⟨node, offset, -⟩
    · exact .inl old
    · exact .inr (same_task placed here node offset)
  refine ⟨closed.size, closed.fits.insert task, ?_, ?_, ?_⟩
  · intro t member
    rcases List.mem_append.mp member with next | later
    · exact isIn_successor here next
    · exact closed.placed t (List.mem_cons_of_mem _ later)
  · intro t placed seen
    rcases split placed seen with old | rfl
    · exact closed.endless t placed old
    · exact unfinished
  · intro t placed seen next step
    rcases split placed seen with old | rfl
    · rcases closed.leads t placed old next step with known | pending | dead
      · exact .inl ((closed.contains_insert task).mpr (.inl known))
      · rcases List.mem_cons.mp pending with rfl | later
        · cases found : nodes[next.node]? with
          | none => exact .inr (.inr rfl)
          | some _ =>
            have small : next.node < visits.size := closed.size ▸ (Array.getElem?_eq_some_iff.mp found).1
            exact .inl ((closed.contains_insert next).mpr
              (.inr ⟨rfl, rfl, Nat.lt_succ_of_le here.1, Visits.counted_of_lt small⟩))
        · exact .inr (.inl (List.mem_append_right _ later))
      · exact .inr (.inr dead)
    · exact .inr (.inl (List.mem_append_left _ step))

theorem Closed.unreachable (closed : Closed nodes text visits []) {t : Task} {stop : Cursor} (placed : t.place.IsIn text)
    (seen : visits.contains t = true) : ¬ Reaches nodes t stop := by
  rintro ⟨k, ends⟩
  induction ends with
  | here done => exact closed.endless _ placed seen done
  | further step rest ih =>
    rcases closed.leads _ placed seen _ step with known | pending | dead
    · exact ih (isIn_successor placed step) known
    · cases pending
    · cases rest with
      | here done =>
        rw [dead] at done
        cases done
      | further step =>
        unfold successors at step
        rw [dead] at step
        cases step

-- The rounds last: each one takes a task away, and one that adds tasks uses up a
-- pair of a node and a place.
theorem explore_complete {p : Program} {rounds : Nat} (closed : Closed p.nodes text visits tasks)
    (enough : tasks.length + 2 * visits.left (text.length + 1) ≤ rounds)
    (missed : (p.explore rounds tasks visits).1 = none) :
    Closed p.nodes text (p.explore rounds tasks visits).2 [] ∧
      (∀ t, t.place.IsIn text → visits.contains t = true → ∀ stop, ¬ Reaches p.nodes t stop) ∧
      ∀ t ∈ tasks, ∀ stop, ¬ Reaches p.nodes t stop := by
  induction rounds generalizing tasks visits with
  | zero =>
    cases tasks with
    | nil => exact ⟨closed, fun t placed seen stop => closed.unreachable placed seen, fun t member => nomatch member⟩
    | cons => simp at enough
  | succ rounds ih =>
    cases tasks with
    | nil => exact ⟨closed, fun t placed seen stop => closed.unreachable placed seen, fun t member => nomatch member⟩
    | cons task tasks =>
      have here := closed.placed task List.mem_cons_self
      rw [List.length_cons] at enough
      rw [explore_cons] at missed ⊢
      split at missed
      · rename_i visited
        rw [if_pos visited]
        obtain ⟨after, known, others⟩ := ih (closed.pop visited) (by omega) missed
        refine ⟨after, known, fun t member => ?_⟩
        rcases List.mem_cons.mp member with rfl | later
        · exact known t here visited
        · exact others t later
      · rename_i fresh
        have fresh : visits.contains task = false := by simpa using fresh
        split at missed
        · cases missed
        · rename_i unfinished
          rw [if_neg (by simp [fresh]), if_neg unfinished]
          have shrunk : (successors p.nodes task ++ tasks).length + 2 * (visits.insert task).left (text.length + 1) ≤
              rounds := by
            rw [List.length_append]
            cases found : p.nodes[task.node]? with
            | none =>
              have none : successors p.nodes task = [] := by
                unfold successors
                rw [found]
              have fewer := closed.fits.left_insert_le task
              rw [none, List.length_nil]
              omega
            | some _ =>
              have small : task.node < visits.size := closed.size ▸ (Array.getElem?_eq_some_iff.mp found).1
              have fewer := closed.fits.left_insert_lt small (Nat.lt_succ_of_le here.1) fresh
              have few := successors_length p.nodes task
              omega
          obtain ⟨after, known, others⟩ := ih (closed.push unfinished) shrunk missed
          refine ⟨after, fun t placed seen => known t placed ((closed.contains_insert task).mpr (.inl seen)), ?_⟩
          intro t member stop reaches
          rcases List.mem_cons.mp member with rfl | later
          · obtain ⟨k, ends⟩ := reaches
            cases ends with
            | here done => exact unfinished done
            | further step rest => exact others _ (List.mem_append_left _ step) stop ⟨_, rest⟩
          · exact others t (List.mem_append_right _ later) stop reaches

def Barren (p : Program) (text : Text) (offset : Nat) : Prop := ∀ stop, ¬ Reaches p.nodes ⟨p.entry, cursorAt text offset⟩ stop

theorem closed_none (p : Program) (text : Text) :
    Closed p.nodes text (.none p.nodes.size (text.length + 1)) [] := by
  have unseen (t : Task) : (Visits.none p.nodes.size (text.length + 1)).contains t = false := by
    rw [Visits.contains_eq_bit, Visits.bit_none]
  refine ⟨rfl, Visits.fits_none _ _, (fun t member => nomatch member), ?_, ?_⟩
  · intro t _ seen
    rw [unseen] at seen
    cases seen
  · intro t _ seen
    rw [unseen] at seen
    cases seen

theorem explore_start {p : Program} {rounds offset : Nat} (closed : Closed p.nodes text visits [])
    (enough : 2 * p.nodes.size * (text.length + 1) + 1 ≤ rounds) (inside : offset ≤ text.length) :
    match p.explore rounds [⟨p.entry, cursorAt text offset⟩] visits with
    | (some stop, _) => Reaches p.nodes ⟨p.entry, cursorAt text offset⟩ stop
    | (none, after) => Closed p.nodes text after [] ∧ Barren p text offset := by
  split
  · rename_i stop after found
    obtain ⟨t, member, reaches⟩ := explore_sound (congrArg Prod.fst found)
    rwa [List.mem_singleton.mp member] at reaches
  · rename_i after missed
    have started : Closed p.nodes text visits [⟨p.entry, cursorAt text offset⟩] := by
      refine ⟨closed.size, closed.fits, ?_, closed.endless, ?_⟩
      · intro t member
        rw [List.mem_singleton.mp member]
        exact isIn_cursorAt inside
      · intro t placed seen next step
        rcases closed.leads t placed seen next step with known | pending | dead
        · exact .inl known
        · cases pending
        · exact .inr (.inr dead)
    have bound := visits.left_le (text.length + 1)
    rw [closed.size] at bound
    have product : 2 * p.nodes.size * (text.length + 1) = 2 * (p.nodes.size * (text.length + 1)) := Nat.mul_assoc _ _ _
    obtain ⟨later, -, barren⟩ := explore_complete started (by simp only [List.length_singleton]; omega) (congrArg Prod.fst missed)
    rw [missed] at later
    exact ⟨later, barren _ (List.mem_singleton.mpr rfl)⟩

theorem findFrom_leftmost {p : Program} {rounds offset : Nat} {rest : Text} (closed : Closed p.nodes text visits [])
    (enough : 2 * p.nodes.size * (text.length + 1) + 1 ≤ rounds) (inside : offset ≤ text.length)
    (behind : text.drop offset = rest) :
    match p.findFrom rounds visits offset (cursorAt text offset).before rest with
    | some (first, stop) => ∃ k, offset ≤ k ∧ k ≤ text.length ∧ first = cursorAt text k ∧
        Reaches p.nodes ⟨p.entry, first⟩ stop ∧ ∀ j, offset ≤ j → j < k → Barren p text j
    | none => ∀ j, offset ≤ j → j ≤ text.length → Barren p text j := by
  induction rest generalizing offset visits with
  | nil =>
    have last : offset = text.length := Nat.le_antisymm inside (List.drop_eq_nil_iff.mp behind)
    have here : (⟨offset, (cursorAt text offset).before, []⟩ : Cursor) = cursorAt text offset := by
      simp only [cursorAt, behind]
    have started := explore_start closed enough inside
    rw [Program.findFrom, here]
    rcases found : p.explore rounds [⟨p.entry, cursorAt text offset⟩] visits with ⟨_ | stop, after⟩
    · rw [found] at started
      intro j least most
      rw [Nat.le_antisymm (last ▸ most) least]
      exact started.2
    · rw [found] at started
      exact ⟨offset, Nat.le_refl _, inside, rfl, started, fun j least less => absurd least (Nat.not_le.mpr less)⟩
  | cons c rest ih =>
    have here : (⟨offset, (cursorAt text offset).before, c :: rest⟩ : Cursor) = cursorAt text offset := by
      simp only [cursorAt, behind]
    have moved := cursorAt_next behind
    have started := explore_start closed enough inside
    have further : offset + 1 ≤ text.length := lt_length_of_drop behind
    rw [Program.findFrom, here]
    rcases found : p.explore rounds [⟨p.entry, cursorAt text offset⟩] visits with ⟨_ | stop, after⟩
    · rw [found] at started
      obtain ⟨closed, barren⟩ := started
      have apart {j : Nat} (least : offset ≤ j) : j = offset ∨ offset + 1 ≤ j := by omega
      have next := ih closed further (by rw [← List.drop_drop, behind]; rfl)
      rw [show (cursorAt text (offset + 1)).before = some c from congrArg Cursor.before moved] at next
      simp only
      split at next
      · obtain ⟨k, least, most, start, reaches, earlier⟩ := next
        refine ⟨k, by omega, most, start, reaches, fun j from_ less => ?_⟩
        rcases apart from_ with rfl | later
        · exact barren
        · exact earlier j later less
      · intro j from_ most
        rcases apart from_ with rfl | later
        · exact barren
        · exact next j later most
    · rw [found] at started
      exact ⟨offset, Nat.le_refl _, inside, rfl, started, fun j least less => absurd least (Nat.not_le.mpr less)⟩

-- A search finds the leftmost place from which an end is reached, and an end that is
-- reached from there; it finds nothing only when there is nothing to find.
theorem Program.find?_leftmost (p : Program) (text : Text) :
    match p.find? text with
    | some (first, stop) => ∃ k ≤ text.length, first = cursorAt text k ∧ Reaches p.nodes ⟨p.entry, first⟩ stop ∧
        ∀ j < k, Barren p text j
    | none => ∀ j ≤ text.length, Barren p text j := by
  have behind : text.drop 0 = text := List.drop_zero
  have found := findFrom_leftmost (closed_none p text) (Nat.le_succ _) (Nat.zero_le _) behind
  unfold Program.find?
  rw [show (cursorAt text 0).before = none from rfl] at found
  split at found
  · rename_i first stop same
    obtain ⟨k, -, most, start, reaches, earlier⟩ := found
    rw [same]
    exact ⟨k, most, start, reaches, fun j less => earlier j (Nat.zero_le _) less⟩
  · rename_i same
    rw [same]
    exact fun j most => found j (Nat.zero_le _) most

end ImportHooks.Pattern
