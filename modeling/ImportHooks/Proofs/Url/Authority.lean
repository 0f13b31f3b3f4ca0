import Mathlib.Data.List.TakeWhile
import ImportHooks.Proofs.Url.Made

namespace ImportHooks.Url
open Text

def isLocal (u : Url) : Bool := u.host?.all (· = .domain localHost)

theorem filePath?_remote {u : Url} (remote : u.isLocal = false) : u.filePath? = none := by
  unfold filePath?
  split
  · rename_i parts _
    have refused : (parts.isEmpty || !u.host?.all (· = .domain localHost)) = true := by
      rw [show u.host?.all (· = .domain localHost) = false from remote]
      simp
    rw [if_pos refused]
  · rfl

def behind (u : Url) : Text :=
  u.shield ++ u.route.text ++ (u.query.map ('?' :: ·)).getD [] ++ (u.fragment.map ('#' :: ·)).getD []

def body (u : Url) : Text := (u.authority.map fun a => '/' :: '/' :: a.text).getD [] ++ u.behind

theorem text_eq (u : Url) : u.text = u.scheme ++ ':' :: u.body := by
  simp only [text, body, behind, List.append_assoc, List.cons_append]

theorem takeWhile_until {p : Char → Bool} {front rest : Text} (free : ∀ c ∈ front, p c = true)
    (stop : ∀ c, rest.head? = some c → p c = false) : (front ++ rest).takeWhile p = front := by
  rw [List.takeWhile_append_of_pos free]
  cases rest with
  | nil => simp
  | cons c others => simp [stop c rfl]

theorem Sound.body_of_text {u v : Url} (first : u.Sound) (second : v.Sound) (same : u.text = v.text) :
    u.body = v.body := by
  have cut {w : Url} (sound : w.Sound) : w.text.takeWhile (· ≠ ':') = w.scheme := by
    rw [text_eq]
    refine takeWhile_until ?_ (by simp)
    intro c inside
    have other : c ≠ ':' := fun colon => sound.scheme.2 (colon ▸ inside)
    simpa using other
  have schemes : u.scheme = v.scheme := by rw [← cut first, ← cut second, same]
  rw [text_eq, text_eq, schemes] at same
  exact (List.cons.inj (List.append_cancel_left same)).2

def endsAuthority (c : Char) : Bool := c = '/' || c = '?' || c = '#'

theorem head?_tail_parts (u : Url) {c : Char}
    (begins : ((u.query.map ('?' :: ·)).getD [] ++ (u.fragment.map ('#' :: ·)).getD []).head? = some c) :
    c = '?' ∨ c = '#' := by
  cases query : u.query with
  | some q => simp [query] at begins; exact .inl begins.symm
  | none =>
    cases fragment : u.fragment with
    | some f => simp [query, fragment] at begins; exact .inr begins.symm
    | none => simp [query, fragment] at begins

theorem Sound.behind_authority {u : Url} (sound : u.Sound) {a : Authority} (placed : u.authority = some a) {c : Char}
    (begins : u.behind.head? = some c) : endsAuthority c = true := by
  unfold behind at begins
  cases route : u.route with
  | plain text =>
    have unplaced := (sound.plain text route).1
    rw [placed] at unplaced
    cases unplaced
  | segments parts =>
    have shieldless : u.shield = [] := by simp [shield, placed]
    rw [shieldless, route] at begins
    cases parts with
    | nil =>
      rcases head?_tail_parts u (by simpa [Route.text] using begins) with rfl | rfl <;> rfl
    | cons part others =>
      simp only [Route.text, List.nil_append, List.flatMap_cons, List.cons_append, List.head?_cons,
        Option.some.injEq] at begins
      subst begins
      rfl

theorem Sound.behind_nothing {u : Url} (sound : u.Sound) (unplaced : u.authority = none) (rest : Text) :
    u.behind ≠ '/' :: '/' :: rest := by
  intro begins
  have notMark {c : Char} (either : c = '?' ∨ c = '#') : c ≠ '/' := by rcases either with rfl | rfl <;> decide
  unfold behind at begins
  cases route : u.route with
  | plain text =>
    have shieldless : u.shield = [] := by simp [shield, unplaced, route]
    rw [shieldless, route, List.nil_append, Route.text] at begins
    cases text with
    | nil =>
      rw [List.nil_append] at begins
      exact notMark (head?_tail_parts u (by rw [begins]; rfl)) rfl
    | cons c others =>
      simp only [List.cons_append, List.cons.injEq] at begins
      exact (sound.plain _ route).2 (by rw [begins.1]; rfl)
  | segments parts =>
    have clean := sound.parts parts route
    match parts with
    | [] =>
      have shieldless : u.shield = [] := by simp [shield, unplaced, route]
      simp only [shieldless, route, Route.text, List.flatMap_nil, List.nil_append] at begins
      exact notMark (head?_tail_parts u (by rw [begins]; rfl)) rfl
    | [part] =>
      have shieldless : u.shield = [] := by simp [shield, unplaced, route]
      simp only [shieldless, route, Route.text, List.flatMap_cons, List.flatMap_nil, List.append_nil, List.nil_append,
        List.cons_append, List.append_assoc, List.cons.injEq, true_and] at begins
      cases part with
      | nil =>
        rw [List.nil_append] at begins
        exact notMark (head?_tail_parts u (by rw [begins]; rfl)) rfl
      | cons c others =>
        simp only [List.cons_append, List.cons.injEq] at begins
        exact clean _ List.mem_cons_self (by rw [begins.1]; exact List.mem_cons_self)
    | [] :: next :: others =>
      -- an empty first segment of several would look like an authority, so it is shielded
      have shielded : u.shield = ['/', '.'] := by simp [shield, unplaced, route]
      simp [shielded] at begins
    | (c :: part) :: next :: others =>
      have shieldless : u.shield = [] := by simp [shield, unplaced, route]
      simp only [shieldless, route, Route.text, List.flatMap_cons, List.nil_append, List.cons_append,
        List.append_assoc, List.cons.injEq, true_and] at begins
      exact clean _ List.mem_cons_self (by rw [begins.1]; exact List.mem_cons_self)

def authorityText? (body : Text) : Option Text :=
  match body with
  | '/' :: '/' :: rest => some (rest.takeWhile fun c => !endsAuthority c)
  | _ => none

theorem Authority.Sound.text_unended {a : Authority} (sound : a.Sound) {c : Char} (inside : c ∈ a.text) :
    endsAuthority c = false := by
  have unmarked {text : Text} (clean : Unmarked text) (member : c ∈ text) : endsAuthority c = false := by
    have absent := clean c member
    simp only [authorityMarks, List.mem_cons, not_or] at absent
    simp [endsAuthority, absent.1, absent.2.1, absent.2.2.1]
  simp only [Authority.text, List.mem_append] at inside
  rcases inside with (user | place) | service
  · split at user
    · cases user
    · rcases List.mem_append.mp user with here | there
      · exact unmarked sound.credentials here
      · rw [List.mem_singleton.mp there]
        rfl
  · cases hosted : a.host with
    | none => simp [hosted] at place
    | some h =>
      rw [hosted] at place
      exact unmarked (sound.host h hosted).unmarked place
  · cases numbered : a.portNumber with
    | none => simp [numbered] at service
    | some n =>
      rw [numbered] at service
      rcases List.mem_cons.mp service with rfl | digit
      · rfl
      · exact unmarked (Host.decimal_unmarked n) digit

theorem Sound.authorityText {u : Url} (sound : u.Sound) : authorityText? u.body = u.authority.map Authority.text := by
  cases placed : u.authority with
  | none =>
    have whole : u.body = u.behind := by simp [body, placed]
    rw [whole]
    unfold authorityText?
    split
    · rename_i rest begins
      exact absurd begins (sound.behind_nothing placed rest)
    · rfl
  | some a =>
    have whole : u.body = '/' :: '/' :: (a.text ++ u.behind) := by simp [body, placed]
    rw [whole]
    simp only [authorityText?, Option.map_some, Option.some.injEq]
    refine takeWhile_until ?_ ?_
    · intro c inside
      simp [(sound.authority a placed).text_unended inside]
    · intro c begins
      simp [sound.behind_authority placed begins]

def placeText (authority : Text) : Text :=
  let place := if authority.contains '@' then (authority.dropWhile (· ≠ '@')).drop 1 else authority
  place.takeWhile (· ≠ ':')

theorem Authority.Sound.placeText {a : Authority} (sound : a.Sound) : ∃ service : Text,
    (∀ c, service.head? = some c → c = ':') ∧
      Url.placeText a.text = ((a.host.map Host.text).getD [] ++ service).takeWhile (· ≠ ':') := by
  refine ⟨(a.portNumber.map fun p => ':' :: Host.decimal p).getD [], ?_, ?_⟩
  · intro c begins
    cases numbered : a.portNumber with
    | none => simp [numbered] at begins
    | some n => simpa [numbered] using begins.symm
  · have noUser : '@' ∉ (a.host.map Host.text).getD [] ++ (a.portNumber.map fun p => ':' :: Host.decimal p).getD [] := by
      intro inside
      rcases List.mem_append.mp inside with place | service
      · cases hosted : a.host with
        | none => simp [hosted] at place
        | some h =>
          rw [hosted] at place
          exact (sound.host h hosted).unmarked _ place (by decide)
      · cases numbered : a.portNumber with
        | none => simp [numbered] at service
        | some n =>
          rw [numbered] at service
          rcases List.mem_cons.mp service with colon | digit
          · cases colon
          · exact Host.decimal_unmarked n _ digit (by decide)
    unfold Url.placeText
    cases named : a.credentials.isEmpty with
    | true =>
      have whole : a.text = (a.host.map Host.text).getD [] ++ (a.portNumber.map fun p => ':' :: Host.decimal p).getD [] := by
        simp [Authority.text, named]
      simp only [whole, List.contains_iff_mem, noUser, if_false]
    | false =>
      have whole : a.text = a.credentials ++ '@' ::
          ((a.host.map Host.text).getD [] ++ (a.portNumber.map fun p => ':' :: Host.decimal p).getD []) := by
        simp [Authority.text, named]
      have user : ∀ c ∈ a.credentials, decide (c ≠ '@') = true := by
        intro c inside
        have other : c ≠ '@' := fun mark => sound.credentials c inside (mark ▸ by decide)
        simpa using other
      rw [whole, List.dropWhile_append_of_pos user]
      simp

theorem Authority.Sound.names_localHost {a : Authority} (sound : a.Sound) :
    Url.placeText a.text = localHost ↔ a.host = some (.domain localHost) := by
  obtain ⟨service, colon, place⟩ := sound.placeText
  have ended : ∀ c, service.head? = some c → decide (c ≠ ':') = false := by
    intro c begins
    simp [colon c begins]
  rw [place]
  cases hosted : a.host with
  | none =>
    have nothing : (([] : Text) ++ service).takeWhile (· ≠ ':') = [] := takeWhile_until (by simp) ended
    simp only [Option.map_none, Option.getD_none, nothing]
    exact iff_of_false (by decide) (by simp)
  | some h =>
    simp only [Option.map_some, Option.getD_some, Option.some.injEq]
    cases h with
    | domain name =>
      have plain := (sound.host _ hosted).noColon name rfl
      have kept : (name ++ service).takeWhile (· ≠ ':') = name := by
        refine takeWhile_until ?_ ended
        intro c inside
        have other : c ≠ ':' := fun same => plain (same ▸ inside)
        simpa using other
      simp only [Host.text, kept, Host.domain.injEq]
    | ipv4 address =>
      obtain ⟨c, rest, begins, digit⟩ := Host.ipv4Text_begins address
      have other : c ≠ ':' := by
        rintro rfl
        cases digit
      simp only [Host.text, begins, List.cons_append, reduceCtorEq, iff_false]
      rw [List.takeWhile_cons_of_pos (by simpa using other)]
      intro same
      rw [(List.cons.inj same).1] at digit
      cases digit
    | ipv6 pieces =>
      simp only [Host.text, List.cons_append, reduceCtorEq, iff_false]
      rw [List.takeWhile_cons_of_pos (by decide)]
      intro same
      exact absurd (List.cons.inj same).1 (by decide)

theorem Authority.Sound.text_eq_nil {a : Authority} (sound : a.Sound) : a.text = [] ↔ a.host = none := by
  constructor
  · intro empty
    cases hosted : a.host with
    | none => rfl
    | some h =>
      simp only [Authority.text, hosted, Option.map_some, Option.getD_some, List.append_eq_nil_iff] at empty
      exact absurd empty.1.2 (sound.host h hosted).nonempty
  · intro unhosted
    obtain ⟨user, number⟩ := sound.hostless unhosted
    simp [Authority.text, unhosted, user, number]

def localBody (body : Text) : Bool :=
  match authorityText? body with
  | none => true
  | some authority => authority.isEmpty || placeText authority = localHost

theorem Sound.isLocal_eq {u : Url} (sound : u.Sound) : u.isLocal = localBody u.body := by
  unfold localBody isLocal host?
  rw [sound.authorityText]
  cases placed : u.authority with
  | none => rfl
  | some a =>
    have good := sound.authority a placed
    simp only [Option.bind_some, Option.map_some]
    cases hosted : a.host with
    | none => simp [good.text_eq_nil.mpr hosted]
    | some h =>
      have nonempty : a.text ≠ [] := by
        intro empty
        rw [good.text_eq_nil.mp empty] at hosted
        cases hosted
      have named : decide (Url.placeText a.text = localHost) = decide (h = .domain localHost) := by
        rw [decide_eq_decide, good.names_localHost, hosted, Option.some.injEq]
      simp [List.isEmpty_iff, nonempty, named]

-- URLs with one text are alike in whether they stand for files of this machine.
theorem Made.isLocal_of_text {u v : Url} (first : Made u) (second : Made v) (same : u.text = v.text) :
    u.isLocal = v.isLocal := by
  rw [first.sound.isLocal_eq, second.sound.isLocal_eq, first.sound.body_of_text second.sound same]

end ImportHooks.Url
