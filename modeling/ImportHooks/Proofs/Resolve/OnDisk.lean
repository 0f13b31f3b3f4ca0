import Mathlib.Data.List.Find
import ImportHooks.Proofs.Disk.Walk
import ImportHooks.Proofs.Resolve.Endings
import ImportHooks.Proofs.Resolve.Verified

namespace ImportHooks.Resolve
open Text

theorem default_candidate {url : Url} {candidate : Path} (member : candidate ∈ candidates defaultRules url) :
    candidate.isAbsolute = true ∧ candidate.names ≠ [] ∧ ∃ front, utf8 candidate.normal.text = front ++ [0x73] := by
  unfold candidates at member
  cases converted : url.filePath? with
  | none => simp [converted] at member
  | some path =>
    simp only [converted, List.mem_map] at member
    obtain ⟨rule, ruled, rfl⟩ := member
    refine ⟨default_rule_rooted ruled (Url.filePath?_isAbsolute converted), ?_⟩
    obtain ⟨front, made⟩ := default_rule_ending ruled path.text
    have shape {d e f : Char} (unparted : '/' ∉ [d, e, f]) (ended : utf8 [d, e, f] = utf8 [d, e] ++ [0x73]) :
        (Path.mk (front ++ [d, e, f])).names ≠ [] ∧
          ∃ front', utf8 (Path.mk (front ++ [d, e, f])).normal.text = front' ++ [0x73] := by
      have solid (front : Text) : Path.isIdle (front ++ [d, e, f]) = false := Path.isIdle_of_length (by simp)
      obtain ⟨earlier, last, names⟩ := Path.names_extended unparted solid front
      obtain ⟨start, normal⟩ := Path.normal_extended unparted solid front
      refine ⟨by simp [names], utf8 start ++ utf8 [d, e], ?_⟩
      rw [normal, utf8_append, ended, List.append_assoc]
    rw [made]
    split
    · exact shape (by decide) (by decide)
    · exact shape (by decide) (by decide)

theorem findSome?_wins? {fileExists : Path → Bool} {paths : List Path} (rooted : ∀ p ∈ paths, p.isAbsolute = true) :
    paths.findSome? (wins? fileExists) = (paths.find? fileExists).bind Url.ofFilePath? := by
  induction paths with
  | nil => rfl
  | cons p paths ih =>
    have tail := ih fun q member => rooted q (List.mem_cons_of_mem _ member)
    have named : Url.ofFilePath? p = some _ := (Url.ofFilePath?_eq p).trans (if_pos (rooted p List.mem_cons_self))
    rw [List.findSome?_cons, List.find?_cons, wins?]
    cases fileExists p with
    | true => simp [named]
    | false => simpa using tail

theorem bind_ofFilePath?_eq_none {asked : Path → Bool} {paths : List Path} (rooted : ∀ p ∈ paths, p.isAbsolute = true) :
    (paths.find? asked).bind Url.ofFilePath? = none ↔ ∀ p ∈ paths, asked p = false := by
  cases first : paths.find? asked with
  | none =>
    have unasked := List.find?_eq_none.mp first
    exact ⟨fun _ p member => by simpa using unasked p member, fun _ => rfl⟩
  | some winner =>
    have member := List.mem_of_find?_eq_some first
    have named := (Url.ofFilePath?_eq winner).trans (if_pos (rooted winner member))
    constructor
    · intro missed
      cases named.symm.trans missed
    · intro unasked
      cases (unasked winner member).symm.trans (List.find?_some first)

theorem answer_reads_back {d : Disk} {url answered : Url} {candidate : Path} (member : candidate ∈ candidates defaultRules url)
    (existing : d.exists? candidate = true) (converted : Url.ofFilePath? candidate = some answered) :
    answered.filePath? = some candidate.normal ∧ candidate.normal.components = candidate.components ∧
      d.find? candidate.normal = d.find? candidate := by
  obtain ⟨absolute, named, front, ended⟩ := default_candidate member
  obtain ⟨path, read, alike⟩ := Url.filePath?_ofFilePath? converted
  have normal := Url.filePath?_ofFilePath?_normal converted named ended (by decide)
  cases read.symm.trans normal
  exact ⟨normal, alike, Disk.find?_normal absolute named existing⟩

-- A URL that is not known yet is answered with the first of its candidates that
-- exists. It names a file on the disk unless that candidate is a directory; when no
-- candidate is one, the first file among them is found.
theorem uncached_answer_on_disk (d : Disk) (grounded : d.Grounded) (r : Resolver) (plain : r.rules = defaultRules)
    (call : Call) (url : Url) (looks : call.target? = some url) (unknown : r.cache.get? url = none) :
    let tried := candidates defaultRules url
    let found := (tried.find? d.exists?).bind Url.ofFilePath?
    (r.serve ⟨d.exists?, call⟩).value = call.reply found ∧
      (∀ answered, found = some answered → ∃ candidate path, tried.find? d.exists? = some candidate ∧
        answered.filePath? = some path ∧ path.components = candidate.components ∧
        (d.isFile path = true ∨ d.IsDirectory path) ∧ (d.isFile path = true ↔ ¬ d.IsDirectory candidate)) ∧
      (found = none ↔ ∀ candidate ∈ tried, d.exists? candidate = false) ∧
      ((∀ candidate ∈ tried, ¬ d.IsDirectory candidate) → found = (tried.find? d.isFile).bind Url.ofFilePath?) := by
  intro tried found
  have rooted : ∀ candidate ∈ tried, candidate.isAbsolute = true := fun _ member => (default_candidate member).1
  have winner : firstWinner? d.exists? defaultRules url = found := findSome?_wins? rooted
  refine ⟨?_, ?_, ?_, ?_⟩
  · rw [Resolver.serve_eq]
    simp only [looks, Resolver.resolveUrl_eq, unknown, plain, winner]
    cases found <;> rfl
  · intro answered answer
    obtain ⟨candidate, first, converted⟩ := Option.bind_eq_some_iff.mp answer
    have member := List.mem_of_find?_eq_some first
    have existing : d.exists? candidate = true := List.find?_some first
    obtain ⟨read, alike, same⟩ := answer_reads_back member existing converted
    refine ⟨candidate, candidate.normal, first, read, alike, ?_⟩
    rw [Disk.isFile, Disk.IsDirectory, same, ← Disk.isFile, ← Disk.IsDirectory]
    have either := grounded.find? (rooted candidate member) existing
    exact ⟨either.symm, fun isFile directory => by simp [Disk.not_isFile_of_isDirectory directory] at isFile, either.resolve_left⟩
  · exact bind_ofFilePath?_eq_none rooted
  · intro plainFiles
    have agree : ∀ candidate ∈ tried, d.exists? candidate = d.isFile candidate := by
      intro candidate member
      rw [Bool.eq_iff_iff]
      refine ⟨fun existing => ?_, Disk.exists?_of_isFile⟩
      exact (grounded.find? (rooted candidate member) existing).resolve_left (plainFiles candidate member)
    have first : tried.find? d.exists? = tried.find? d.isFile := List.find?_congr agree
    simp only [found, first]

def chartDisk : Disk where
  entries := [(["app".toList], .directory), (["chart.js".toList, "app".toList], .directory),
    (["index.js".toList, "chart.js".toList, "app".toList], .file []),
    (["plot.js".toList, "app".toList], .link ⟨"chart.js/index.js".toList⟩)]
  working := []

theorem linked_module_is_a_file :
    chartDisk.Grounded ∧ ∃ answered path, ((Resolver.ofRules defaultRules).serve
        ⟨chartDisk.exists?, .resolveUrl (localUrl ["app", "plot"])⟩).value = .url (some answered) ∧
      answered.filePath? = some path ∧ path.components = (.root, ["app".toList, "plot.js".toList]) ∧
      chartDisk.isFile path = true := by
  have grounded : chartDisk.Grounded := by
    unfold Disk.Grounded
    decide +kernel
  obtain ⟨value, names, -, -⟩ := uncached_answer_on_disk chartDisk grounded (Resolver.ofRules defaultRules) rfl
    (.resolveUrl (localUrl ["app", "plot"])) (localUrl ["app", "plot"]) rfl rfl
  have first : (candidates defaultRules (localUrl ["app", "plot"])).find? chartDisk.exists? = some ⟨"/app/plot.js".toList⟩ := by
    decide +kernel
  have answer : (Url.ofFilePath? ⟨"/app/plot.js".toList⟩) = some (localUrl ["app", "plot.js"]) := by decide +kernel
  simp only [first, Option.bind_some, answer] at value names
  obtain ⟨candidate, path, same, read, alike, -, file⟩ := names _ rfl
  cases same
  refine ⟨grounded, _, path, value, read, alike.trans (by decide +kernel), file.mpr ?_⟩
  unfold Disk.IsDirectory
  decide +kernel

-- The directory itself is found, and the module inside it is not asked for.
theorem directory_wins_over_its_index :
    let context : Hooks.ResolveContext := ⟨some (localUrl ["app", "main.js"]), [], []⟩
    let answer := (Resolver.ofRules defaultRules).resolution chartDisk.exists? "./chart.js".toList context
    let index : Path := ⟨"/app/chart.js/index.js".toList⟩
    answer.value = .ok (.completed (localUrl ["app", "chart.js"])) ∧
      (localUrl ["app", "chart.js"]).filePath? = some ⟨"/app/chart.js".toList⟩ ∧
      chartDisk.find? ⟨"/app/chart.js".toList⟩ = some .directory ∧
      index ∈ candidates defaultRules (localUrl ["app", "chart.js"]) ∧ chartDisk.isFile index = true ∧
      index ∉ answer.asked := by
  decide +kernel

end ImportHooks.Resolve
