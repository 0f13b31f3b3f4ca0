import ImportHooks.Proofs.Resolve.History
import ImportHooks.Proofs.Url.Authority

namespace ImportHooks.Resolve
open Hooks

def Call.urls : Call → List Url
  | .resolveUrl url => [url]
  | .resolution _ context | .resolve _ _ context => context.parent.toList

def Genuine (past : List Moment) : Prop := ∀ m ∈ past, ∀ url ∈ m.call.urls, Url.Made url

theorem joined?_made {specifier : Text} {context : ResolveContext} {url : Url}
    (genuine : ∀ parent ∈ context.parent.toList, Url.Made parent) (joined : joined? specifier context = some url) :
    Url.Made url := by
  unfold joined? at joined
  split at joined
  · obtain ⟨parent, given, joined⟩ := Option.bind_eq_some_iff.mp joined
    exact .joined (genuine parent (Option.mem_toList.mpr given)) joined
  · cases joined

theorem target?_made {call : Call} {url : Url} (genuine : ∀ url ∈ call.urls, Url.Made url)
    (looks : call.target? = some url) : Url.Made url := by
  cases call with
  | resolveUrl given =>
    cases looks
    exact genuine _ List.mem_cons_self
  | resolution specifier context => exact joined?_made genuine looks
  | resolve next specifier context => exact joined?_made genuine looks

theorem firstWinner?_remote {url : Url} (remote : url.isLocal = false) (fileExists : Path → Bool) (rules : List Rule) :
    firstWinner? fileExists rules url = none := by
  unfold firstWinner? candidates
  rw [Url.filePath?_remote remote]
  rfl

theorem firstSuccess?_remote {past : List Moment} (genuine : Genuine past) {url : Url} (made : Url.Made url)
    (remote : url.isLocal = false) (rules : List Rule) : firstSuccess? rules past url = none := by
  unfold firstSuccess?
  rw [List.findSome?_eq_none_iff]
  intro m member
  unfold Moment.success?
  cases looks : m.call.target? with
  | none => rfl
  | some target =>
    simp only
    split
    · rename_i same
      have alike := (target?_made (genuine m member) looks).isLocal_of_text made same
      exact firstWinner?_remote (alike.trans remote) m.fileExists rules
    · rfl

theorem resolveUrl_remote {past : List Moment} (genuine : Genuine past) {url : Url} (made : Url.Made url)
    (remote : url.isLocal = false) (fileExists : Path → Bool) (rules : List Rule) :
    (Resolver.afterAll rules past).resolveUrl fileExists url = ⟨none, Resolver.afterAll rules past, []⟩ := by
  have unknown : (Resolver.afterAll rules past).cache.get? url = none := by
    rw [(recorded_afterAll rules past).entries url]
    exact firstSuccess?_remote genuine made remote rules
  have unasked : askedAbout fileExists (Resolver.afterAll rules past).rules url = [] := by
    simp [askedAbout, candidates, Url.filePath?_remote remote]
  rw [Resolver.resolveUrl_eq, unknown, firstWinner?_remote remote, unasked]

-- A specifier that is joined to a URL with a host of its own is passed on.
theorem remote_module_reaches_no_file (rules : List Rule) (past : List Moment) (genuine : Genuine past)
    (fileExists : Path → Bool) (specifier : Text) (context : ResolveContext) (parent url : Url)
    (relative : isRelative specifier = true) (given : context.parent = some parent) (made : Url.Made parent)
    (joined : parent.join? specifier = some url)
    (remote : ∃ host, url.host? = some host ∧ host ≠ .domain Url.localHost) :
    (Resolver.afterAll rules past).resolution fileExists specifier context =
      ⟨.ok .passthrough, Resolver.afterAll rules past, []⟩ := by
  obtain ⟨host, hosted, named⟩ := remote
  have remote : url.isLocal = false := by simp [Url.isLocal, hosted, named]
  have asked := resolveUrl_remote genuine (.joined made joined) remote fileExists rules
  simp only [Resolver.resolution, relative, if_true, given, joined, asked]
  rfl

-- A module of another machine, seen by a resolver that was asked for a file of that path before.
theorem remote_module_passes :
    let parent : Url := ⟨"app".toList, some ⟨[], some (.domain "example.com".toList), none⟩,
      .segments ["app".toList, "index.js".toList], none, none⟩
    let past : List Moment := [⟨fun _ => true, .resolveUrl (localUrl ["app", "util"])⟩]
    let r := Resolver.afterAll defaultRules past
    r.resolution (fun _ => true) "./util".toList ⟨some parent, [], []⟩ = ⟨.ok .passthrough, r, []⟩ := by
  intro parent past r
  have read : Url.parse? "app://example.com/app/index.js".toList = some parent := by decide +kernel
  have path : Url.ofFilePath? ⟨"/app/util".toList⟩ = some (localUrl ["app", "util"]) := by decide +kernel
  have joined : parent.join? "./util".toList =
      some { parent with route := .segments ["app".toList, "util".toList] } := by decide +kernel
  refine remote_module_reaches_no_file defaultRules past ?_ _ _ _ parent _ (by decide) rfl (.parsed read) joined
    ⟨.domain "example.com".toList, rfl, by decide⟩
  intro m member url carried
  rw [List.mem_singleton.mp member] at carried
  rw [List.mem_singleton.mp carried]
  exact .ofPath path

-- The scheme keeps nothing away from the files: this module comes from a server.
theorem localhost_module_reaches_a_file :
    let parent : Url := ⟨"http".toList, some ⟨[], some (.domain "localhost".toList), none⟩,
      .segments ["app".toList, "index.js".toList], none, none⟩
    let answer := (Resolver.afterAll defaultRules []).resolution (exactly "/app/util.js") "./util".toList
      ⟨some parent, [], []⟩
    parent.text = "http://localhost/app/index.js".toList ∧
      (parent.join? "./util".toList).map Url.scheme = some "http".toList ∧
      answer.value = .ok (.completed (localUrl ["app", "util.js"])) ∧
      answer.asked = [⟨"/app/util.js".toList⟩] ∧ answer.resolver.cache.size = 1 := by
  decide +kernel

end ImportHooks.Resolve
