import Mathlib.Data.List.Induction
import ImportHooks.Resolve.Resolver

namespace ImportHooks.Resolve
open Hooks

-- What scanning a URL means: its candidates in the order of the rules, the first
-- of them that exists and has a URL, and the paths that were asked about.
def candidates (rules : List Rule) (url : Url) : List Path :=
  match url.filePath? with
  | some path => rules.map fun rule => ⟨rule.apply path.text⟩
  | none => []

def wins? (fileExists : Path → Bool) (candidate : Path) : Option Url :=
  if fileExists candidate then Url.ofFilePath? candidate else none

def firstWinner? (fileExists : Path → Bool) (rules : List Rule) (url : Url) : Option Url :=
  (candidates rules url).findSome? (wins? fileExists)

def askedAbout (fileExists : Path → Bool) (rules : List Rule) (url : Url) : List Path :=
  (candidates rules url).take ((candidates rules url).findIdx (fun c => (wins? fileExists c).isSome) + 1)

theorem scan_exact (fileExists : Path → Bool) (path : Text) (rules : List Rule) :
    let paths := rules.map fun rule => Path.mk (rule.apply path)
    scan fileExists path rules =
      (paths.findSome? (wins? fileExists), paths.take (paths.findIdx (fun c => (wins? fileExists c).isSome) + 1)) := by
  intro paths
  induction rules with
  | nil => rfl
  | cons rule rest ih =>
    simp only [scan, paths, List.map_cons, List.findSome?_cons, List.findIdx_cons]
    cases won : wins? fileExists ⟨rule.apply path⟩ with
    | some url =>
      simp only [wins?] at won
      simp [won]
    | none =>
      simp only [wins?] at won
      simp [won, ih]

theorem scanUrl_exact (fileExists : Path → Bool) (rules : List Rule) (url : Url) :
    scanUrl fileExists rules url = (firstWinner? fileExists rules url, askedAbout fileExists rules url) := by
  unfold scanUrl firstWinner? askedAbout candidates
  cases url.filePath? with
  | none => rfl
  | some path => exact scan_exact fileExists path.text rules

namespace Cache

theorem get?_set (c : Cache) (key value url : Url) :
    (c.set key value).get? url = if key.text = url.text then some value else c.get? url := by
  unfold get? set
  by_cases same : key.text = url.text
  · simp [same]
  · simp only [List.find?_cons, decide_eq_false same, if_neg same, List.find?_filter]
    congr 2
    funext entry
    by_cases other : entry.1.text = url.text
    · simp [other, Ne.symm same]
    · simp [other]

def Distinct (c : Cache) : Prop := (c.entries.map fun entry => entry.1.text).Nodup

theorem Distinct.set {c : Cache} (distinct : c.Distinct) (key value : Url) : (c.set key value).Distinct := by
  unfold Distinct Cache.set
  rw [List.map_cons, List.nodup_cons]
  constructor
  · simp
  · exact distinct.sublist (List.filter_sublist.map _)

theorem Distinct.get? {c : Cache} (distinct : c.Distinct) {entry : Url × Url} (member : entry ∈ c.entries) :
    c.get? entry.1 = some entry.2 := by
  obtain ⟨entries⟩ := c
  unfold Distinct at distinct
  unfold Cache.get?
  induction entries with
  | nil => cases member
  | cons first rest ih =>
    simp only [List.map_cons, List.nodup_cons] at distinct
    rcases List.mem_cons.mp member with rfl | there
    · simp
    · have different : first.1.text ≠ entry.1.text := by
        intro same
        exact distinct.1 (same ▸ List.mem_map_of_mem there)
      simp only [List.find?_cons, decide_eq_false different]
      exact ih distinct.2 there

end Cache

inductive Call where
  | resolveUrl (url : Url)
  | resolution (specifier : Text) (context : ResolveContext)
  | resolve (next : Text → ResolveContext → Except HookError ResolveOutput) (specifier : Text)
      (context : ResolveContext)

inductive Reply where
  | url (found : Option Url)
  | resolution (value : Except HookError Resolution)
  | resolved (value : Except HookError (Except HookError ResolveOutput))

structure Moment where
  fileExists : Path → Bool
  call : Call

namespace Resolver

def serve (r : Resolver) (m : Moment) : Answer Reply :=
  match m.call with
  | .resolveUrl url =>
    let answer := r.resolveUrl m.fileExists url
    ⟨.url answer.value, answer.resolver, answer.asked⟩
  | .resolution specifier context =>
    let answer := r.resolution m.fileExists specifier context
    ⟨.resolution answer.value, answer.resolver, answer.asked⟩
  | .resolve next specifier context =>
    let answer := r.resolve m.fileExists next specifier context
    ⟨.resolved answer.value, answer.resolver, answer.asked⟩

def afterAll (rules : List Rule) (past : List Moment) : Resolver :=
  past.foldl (fun r m => (r.serve m).resolver) (ofRules rules)

end Resolver

def joined? (specifier : Text) (context : ResolveContext) : Option Url :=
  if isRelative specifier then context.parent.bind (·.join? specifier) else none

def decided (specifier : Text) (context : ResolveContext) (found : Option Url) : Except HookError Resolution :=
  if isRelative specifier && context.parent.isNone then .error (.missingParent specifier)
  else .ok ((found.map .completed).getD .passthrough)

namespace Call

def target? : Call → Option Url
  | .resolveUrl url => some url
  | .resolution specifier context | .resolve _ specifier context => joined? specifier context

def reply (found : Option Url) : Call → Reply
  | .resolveUrl _ => .url found
  | .resolution specifier context => .resolution (decided specifier context found)
  | .resolve next specifier context =>
    .resolved ((decided specifier context found).map fun resolution => next (resolution.handedOn specifier) context)

end Call

theorem Resolver.serve_eq (r : Resolver) (m : Moment) :
    r.serve m = match m.call.target? with
      | none => ⟨m.call.reply none, r, []⟩
      | some url =>
        let answer := r.resolveUrl m.fileExists url
        ⟨m.call.reply answer.value, answer.resolver, answer.asked⟩ := by
  have resolution_eq (specifier : Text) (context : ResolveContext) :
      r.resolution m.fileExists specifier context = match joined? specifier context with
        | none => ⟨decided specifier context none, r, []⟩
        | some url =>
          let answer := r.resolveUrl m.fileExists url
          ⟨decided specifier context answer.value, answer.resolver, answer.asked⟩ := by
    unfold Resolver.resolution joined? decided
    cases relative : isRelative specifier with
    | false => simp
    | true =>
      cases parent : context.parent with
      | none => simp
      | some base => cases joined : base.join? specifier <;> simp [joined]
  unfold Resolver.serve
  split <;> rename_i same <;> rw [same]
  · rfl
  · simp only [Call.target?, Call.reply, resolution_eq]
    split <;> rfl
  · simp only [Call.target?, Call.reply, Resolver.resolve, resolution_eq]
    split <;> rfl

theorem Resolver.resolveUrl_eq (r : Resolver) (fileExists : Path → Bool) (url : Url) :
    r.resolveUrl fileExists url = match r.cache.get? url, firstWinner? fileExists r.rules url with
      | some known, _ => ⟨some known, r, []⟩
      | none, some found => ⟨some found, { r with cache := r.cache.set url found }, askedAbout fileExists r.rules url⟩
      | none, none => ⟨none, r, askedAbout fileExists r.rules url⟩ := by
  unfold Resolver.resolveUrl
  rw [scanUrl_exact]
  cases r.cache.get? url with
  | some known => rfl
  | none => cases firstWinner? fileExists r.rules url <;> rfl

def Moment.success? (rules : List Rule) (url : Url) (m : Moment) : Option Url :=
  match m.call.target? with
  | some target => if target.text = url.text then firstWinner? m.fileExists rules target else none
  | none => none

def firstSuccess? (rules : List Rule) (past : List Moment) (url : Url) : Option Url :=
  past.findSome? (Moment.success? rules url)

theorem firstSuccess?_text (rules : List Rule) (past : List Moment) {u v : Url} (same : u.text = v.text) :
    firstSuccess? rules past u = firstSuccess? rules past v := by
  unfold firstSuccess?
  congr 1
  funext m
  simp only [Moment.success?, same]

theorem firstSuccess?_snoc (rules : List Rule) (past : List Moment) (m : Moment) (url : Url) :
    firstSuccess? rules (past ++ [m]) url = (firstSuccess? rules past url).or (m.success? rules url) := by
  simp only [firstSuccess?, List.findSome?_append, List.findSome?_cons, List.findSome?_nil]
  cases m.success? rules url <;> rfl

structure Recorded (rules : List Rule) (past : List Moment) (r : Resolver) : Prop where
  keeps : r.rules = rules
  entries : ∀ url, r.cache.get? url = firstSuccess? rules past url
  distinct : r.cache.Distinct

theorem Recorded.serve {rules : List Rule} {past : List Moment} {r : Resolver} (recorded : Recorded rules past r)
    (m : Moment) : Recorded rules (past ++ [m]) (r.serve m).resolver := by
  obtain ⟨rfl, entries, distinct⟩ := recorded
  rw [r.serve_eq]
  cases sought : m.call.target? with
  | none =>
    refine ⟨rfl, fun url => ?_, distinct⟩
    rw [firstSuccess?_snoc, entries url]
    simp [Moment.success?, sought]
  | some target =>
    have success (url : Url) : m.success? r.rules url =
        if target.text = url.text then firstWinner? m.fileExists r.rules target else none := by
      simp [Moment.success?, sought]
    simp only [r.resolveUrl_eq]
    cases known : r.cache.get? target with
    | some resolved =>
      refine ⟨rfl, fun url => ?_, distinct⟩
      rw [firstSuccess?_snoc, success, entries url]
      by_cases same : target.text = url.text
      · rw [← firstSuccess?_text _ _ same, ← entries target, known]
        rfl
      · simp [same]
    | none =>
      cases won : firstWinner? m.fileExists r.rules target with
      | none =>
        refine ⟨rfl, fun url => ?_, distinct⟩
        rw [firstSuccess?_snoc, success, won, entries url]
        simp
      | some found =>
        refine ⟨rfl, fun url => ?_, distinct.set target found⟩
        rw [firstSuccess?_snoc, success, won]
        simp only [Cache.get?_set]
        by_cases same : target.text = url.text
        · rw [← firstSuccess?_text _ _ same, ← entries target, known]
          simp [same]
        · simp [same, entries url]

theorem recorded_afterAll (rules : List Rule) (past : List Moment) :
    Recorded rules past (Resolver.afterAll rules past) := by
  induction past using List.reverseRecOn with
  | nil => exact ⟨rfl, fun _ => rfl, .nil⟩
  | append_singleton past m ih =>
    simpa only [Resolver.afterAll, List.foldl_append, List.foldl_cons, List.foldl_nil] using ih.serve m

-- Whatever came before, a call that looks for a URL gets the first success of the
-- past, or else the outcome of a scan now; only a scan asks, and only its success
-- leaves a trace.
theorem calls_answer_first_success (rules : List Rule) (past : List Moment) (now : Moment) :
    let before := Resolver.afterAll rules past
    let answer := before.serve now
    (∀ url, now.call.target? = some url →
      let known := firstSuccess? rules past url
      let found := known.or (firstWinner? now.fileExists rules url)
      answer.value = now.call.reply found ∧
      answer.asked = (if known.isSome then [] else askedAbout now.fileExists rules url) ∧
      (found = none → answer.resolver = before)) ∧
    (now.call.target? = none → answer = ⟨now.call.reply none, before, []⟩) ∧
    (∀ url, before.cache.get? url = firstSuccess? rules past url) ∧
    (∀ entry ∈ before.cache.entries, firstSuccess? rules past entry.1 = some entry.2) ∧
    before.cache.Distinct := by
  intro before answer
  obtain ⟨keeps, entries, distinct⟩ := recorded_afterAll rules past
  have served : answer = _ := before.serve_eq now
  refine ⟨?_, ?_, entries, ?_, distinct⟩
  · intro url looks known found
    have looked := before.resolveUrl_eq now.fileExists url
    simp only [looks] at served
    rw [entries url, show before.rules = rules from keeps] at looked
    cases past : known with
    | some resolved =>
      simp only [known] at past
      simp only [past] at looked
      simp [served, looked, found, known, past]
    | none =>
      simp only [known] at past
      simp only [past] at looked
      cases won : firstWinner? now.fileExists rules url with
      | some resolved => simp [served, looked, found, known, past, won]
      | none => simp [served, looked, found, known, past, won]
  · intro looks
    simpa only [looks] using served
  · intro entry member
    rw [← entries]
    exact distinct.get? member

def localUrl (parts : List String) : Url :=
  ⟨Url.fileScheme, some (Url.fileAuthority none), .segments (parts.map String.toList), none, none⟩

def exactly (path : String) : Path → Bool := fun p => p.text = path.toList

def busyPast : List Moment :=
  [⟨fun _ => false, .resolveUrl (localUrl ["app", "util"])⟩,
    ⟨exactly "/app/util.ts", .resolution "./util".toList ⟨some (localUrl ["app", "main.ts"]), [], []⟩⟩,
    ⟨exactly "/app/other.js", .resolveUrl (localUrl ["app", "other"])⟩]

theorem first_success_stays :
    let now : Moment := ⟨exactly "/app/util.js", .resolveUrl (localUrl ["app", "util"])⟩
    let answer := (Resolver.afterAll defaultRules busyPast).serve now
    now.call.target? = some (localUrl ["app", "util"]) ∧
      answer.value = .url (some (localUrl ["app", "util.ts"])) ∧ answer.asked = [] := by
  intro now answer
  have known : firstSuccess? defaultRules busyPast (localUrl ["app", "util"]) = some (localUrl ["app", "util.ts"]) := by
    decide +kernel
  obtain ⟨value, asked, _⟩ := (calls_answer_first_success defaultRules busyPast now).1 _ rfl
  rw [known] at value asked
  exact ⟨rfl, value, asked⟩

end ImportHooks.Resolve
