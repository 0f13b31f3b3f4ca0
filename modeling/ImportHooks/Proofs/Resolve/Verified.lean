import ImportHooks.Proofs.Resolve.History
import ImportHooks.Proofs.Url.DotSegments

namespace ImportHooks.Resolve
open Hooks

-- The moment of a past that made an entry. Nothing was known of its URL before.
structure Maker (rules : List Rule) (past : List Moment) (key found : Url) where
  before : List Moment
  moment : Moment
  after : List Moment
  target : Url
  candidate : Path
  parted : past = before ++ moment :: after
  looks : moment.call.target? = some target
  same : target.text = key.text
  unknown : (Resolver.afterAll rules before).cache.get? target = none
  asked : candidate ∈ ((Resolver.afterAll rules before).serve moment).asked
  existed : moment.fileExists candidate = true
  named : Url.ofFilePath? candidate = some found
  kept : ((Resolver.afterAll rules before).serve moment).resolver.cache.get? target = some found

theorem wins?_eq_some {fileExists : Path → Bool} {candidate : Path} {found : Url}
    (won : wins? fileExists candidate = some found) :
    fileExists candidate = true ∧ Url.ofFilePath? candidate = some found := by
  unfold wins? at won
  split at won
  · rename_i existed
    exact ⟨existed, won⟩
  · cases won

theorem firstWinner?_asked {fileExists : Path → Bool} {rules : List Rule} {url found : Url}
    (won : firstWinner? fileExists rules url = some found) :
    ∃ candidate ∈ askedAbout fileExists rules url, wins? fileExists candidate = some found := by
  obtain ⟨earlier, candidate, later, parted, won, lost⟩ := List.findSome?_eq_some_iff.mp won
  refine ⟨candidate, ?_, won⟩
  have index : (candidates rules url).findIdx (fun c => (wins? fileExists c).isSome) = earlier.length := by
    rw [parted, List.findIdx_append, List.findIdx_eq_length_of_false (fun c member => by simp [lost c member]),
      List.findIdx_cons]
    simp [won]
  rw [askedAbout, index, parted, List.take_append]
  simp

theorem firstSuccess?_maker {rules : List Rule} {past : List Moment} {key found : Url}
    (known : firstSuccess? rules past key = some found) : Nonempty (Maker rules past key found) := by
  obtain ⟨before, m, after, parted, success, unsuccessful⟩ := List.findSome?_eq_some_iff.mp known
  unfold Moment.success? at success
  split at success
  · rename_i target looks
    split at success
    · rename_i same
      obtain ⟨keeps, entries, -⟩ := recorded_afterAll rules before
      have unknown : (Resolver.afterAll rules before).cache.get? target = none := by
        rw [entries, firstSuccess?_text rules before same]
        exact List.findSome?_eq_none_iff.mpr unsuccessful
      obtain ⟨candidate, asked, won⟩ := firstWinner?_asked success
      obtain ⟨existed, named⟩ := wins?_eq_some won
      have served := (Resolver.afterAll rules before).serve_eq m
      simp only [looks, Resolver.resolveUrl_eq, unknown, keeps, success] at served
      refine ⟨⟨before, m, after, target, candidate, parted, looks, same, unknown, ?_, existed, named, ?_⟩⟩
      · rw [served]
        exact asked
      · rw [served, Cache.get?_set, if_pos rfl]
    · cases success
  · cases success

theorem Maker.success {rules : List Rule} {past : List Moment} {key found : Url} (maker : Maker rules past key found) :
    firstWinner? maker.moment.fileExists rules maker.target = some found := by
  obtain ⟨keeps, -, -⟩ := recorded_afterAll rules maker.before
  have kept := maker.kept
  rw [Resolver.serve_eq] at kept
  simp only [maker.looks, Resolver.resolveUrl_eq, maker.unknown, keeps] at kept
  cases won : firstWinner? maker.moment.fileExists rules maker.target with
  | none => simp [won, maker.unknown] at kept
  | some url =>
    simp only [won, Cache.get?_set, if_true] at kept
    exact kept

theorem decided_completed {specifier : Text} {context : ResolveContext} {found : Option Url} {url : Url}
    (completed : decided specifier context found = .ok (.completed url)) : found = some url := by
  unfold decided at completed
  split at completed
  · cases completed
  · cases found with
    | none => cases completed
    | some other =>
      cases completed
      rfl

theorem completed_success {rules : List Rule} {past : List Moment} {fileExists : Path → Bool} {specifier : Text}
    {context : ResolveContext} {url : Url}
    (completed : ((Resolver.afterAll rules past).resolution fileExists specifier context).value = .ok (.completed url)) :
    ∃ key, joined? specifier context = some key ∧
      firstSuccess? rules (past ++ [⟨fileExists, .resolution specifier context⟩]) key = some url := by
  obtain ⟨keeps, entries, -⟩ := recorded_afterAll rules past
  have served := congrArg Answer.value
    ((Resolver.afterAll rules past).serve_eq ⟨fileExists, .resolution specifier context⟩)
  simp only [Resolver.serve, completed, Call.target?, Call.reply] at served
  cases joined : joined? specifier context with
  | none =>
    simp only [joined, Reply.resolution.injEq] at served
    exact absurd (decided_completed served.symm) (by simp)
  | some key =>
    simp only [joined, Reply.resolution.injEq, Resolver.resolveUrl_eq, entries, keeps] at served
    have answered := decided_completed served.symm
    refine ⟨key, rfl, ?_⟩
    rw [firstSuccess?_snoc]
    cases known : firstSuccess? rules past key with
    | some found => simpa [known] using answered
    | none =>
      cases won : firstWinner? fileExists rules key with
      | none => simp [known, won] at answered
      | some found => simpa [known, won, Moment.success?, Call.target?, joined] using answered

-- A text that is handed on was made from a path whose existence was asked about at
-- that moment. A reader of the text comes back to that path unless it climbs, and
-- only then.
theorem completion_reads_as_checked (rules : List Rule) (past : List Moment) (fileExists : Path → Bool)
    (specifier : Text) (context : ResolveContext) (url : Url)
    (completed : ((Resolver.afterAll rules past).resolution fileExists specifier context).value = .ok (.completed url)) :
    (∀ {α : Type} (next : Text → ResolveContext → α),
      ((Resolver.afterAll rules past).resolve fileExists next specifier context).value = .ok (next url.text context)) ∧
    ∃ key, joined? specifier context = some key ∧
      ∃ maker : Maker rules (past ++ [⟨fileExists, .resolution specifier context⟩]) key url,
        (∃ path, (Url.parse? url.text).bind Url.filePath? = some path ∧
          path.components = maker.candidate.components) ↔ ['.', '.'] ∉ maker.candidate.names := by
  constructor
  · intro α next
    simp only [Resolver.resolve, completed]
    rfl
  · obtain ⟨key, joined, success⟩ := completed_success completed
    obtain ⟨maker⟩ := firstSuccess?_maker success
    refine ⟨key, joined, maker, ?_, fun level => ?_⟩
    · rintro ⟨path, read, alike⟩ climbs
      have names : path.names = maker.candidate.names := congrArg Prod.snd alike
      exact Url.level_of_parse? maker.named read (names ▸ climbs)
    · obtain ⟨path, converted, alike⟩ := Url.filePath?_ofFilePath? maker.named
      refine ⟨path, ?_, alike⟩
      rw [Url.parse?_ofFilePath? maker.named level]
      exact converted

theorem escaped_name_reads_as_checked :
    let context : ResolveContext := ⟨some (localUrl ["app", "main.js"]), [], []⟩
    let answer := (Resolver.afterAll defaultRules busyPast).resolution (exactly "/app/a b%.js") "./a b%25".toList context
    let url := localUrl ["app", "a%20b%25.js"]
    answer.value = .ok (.completed url) ∧ ∃ path, (Url.parse? url.text).bind Url.filePath? = some path ∧
      path.components = (.root, ["app".toList, "a b%.js".toList]) := by
  intro context answer url
  have completed : answer.value = .ok (.completed url) := by decide +kernel
  obtain ⟨-, key, -, maker, reads⟩ := completion_reads_as_checked defaultRules busyPast _ _ context url completed
  have checked : maker.candidate.components = (.root, ["app".toList, "a b%.js".toList]) := by
    obtain ⟨path, converted, alike⟩ := Url.filePath?_ofFilePath? maker.named
    have same : url.filePath? = some ⟨"/app/a b%.js".toList⟩ := by decide +kernel
    cases same.symm.trans converted
    rw [← alike]
    decide +kernel
  have level : ['.', '.'] ∉ maker.candidate.names := by
    have names : maker.candidate.names = ["app".toList, "a b%.js".toList] := congrArg Prod.snd checked
    rw [names]
    decide
  obtain ⟨path, read, alike⟩ := reads.mpr level
  exact ⟨completed, path, read, alike.trans checked⟩

-- Escaped slashes in a specifier make a candidate that climbs. It is asked about as
-- it stands, and the text that is handed on names another file.
theorem climbing_candidate_reads_elsewhere :
    let answer := (Resolver.afterAll defaultRules []).resolution (exactly "/app/x/../y.js") "./x%2F..%2Fy".toList
      ⟨some (localUrl ["app", "main.js"]), [], []⟩
    let url := localUrl ["app", "x", "..", "y.js"]
    answer.value = .ok (.completed url) ∧ answer.asked = [⟨"/app/x/../y.js".toList⟩] ∧
      url.text = "file:///app/x/../y.js".toList ∧
      (Url.parse? url.text).bind Url.filePath? = some ⟨"/app/y.js".toList⟩ ∧
      (Path.mk "/app/y.js".toList).components ≠ (Path.mk "/app/x/../y.js".toList).components := by
  decide +kernel

end ImportHooks.Resolve
