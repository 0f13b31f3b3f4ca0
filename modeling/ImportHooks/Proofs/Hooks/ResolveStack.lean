import ImportHooks.Hooks.Stack
import ImportHooks.Proofs.Resolve.History
import ImportHooks.Proofs.Url.Made

namespace ImportHooks.Resolve
open Hooks

-- A cache holds URLs that came about as URLs do, otherwise it may be in any state.
def Cache.Genuine (c : Cache) : Prop := ∀ entry ∈ c.entries, Url.Made entry.2

theorem Cache.Genuine.get? {c : Cache} (genuine : c.Genuine) {key found : Url} (known : c.get? key = some found) :
    Url.Made found := by
  obtain ⟨entry, held, rfl⟩ := Option.map_eq_some_iff.mp known
  exact genuine entry (List.mem_of_find?_eq_some held)

theorem Cache.genuine_empty : Cache.empty.Genuine := by
  intro entry member
  cases member

theorem Cache.Genuine.set {c : Cache} (genuine : c.Genuine) (key : Url) {value : Url} (made : Url.Made value) :
    (c.set key value).Genuine := by
  intro entry member
  rcases List.mem_cons.mp member with rfl | kept
  · exact made
  · exact genuine entry (List.mem_filter.mp kept).1

theorem scan_made {fileExists : Path → Bool} {path : Text} {rules : List Rule} {found : Url}
    (won : (scan fileExists path rules).1 = some found) : Url.Made found := by
  induction rules with
  | nil => cases won
  | cons rule rest ih =>
    simp only [scan] at won
    split at won
    · rename_i url wins
      cases won
      split at wins
      · exact .ofPath wins
      · cases wins
    · exact ih won

theorem scanUrl_made {fileExists : Path → Bool} {rules : List Rule} {url found : Url}
    (won : (scanUrl fileExists rules url).1 = some found) : Url.Made found := by
  unfold scanUrl at won
  split at won
  · exact scan_made won
  · cases won

theorem resolveUrl_made {r : Resolver} (genuine : r.cache.Genuine) (fileExists : Path → Bool) (url : Url) :
    (∀ found, (r.resolveUrl fileExists url).value = some found → Url.Made found) ∧
      (r.resolveUrl fileExists url).resolver.cache.Genuine := by
  unfold Resolver.resolveUrl
  split
  · rename_i known hit
    refine ⟨?_, genuine⟩
    rintro found ⟨⟩
    exact genuine.get? hit
  · split
    · rename_i won asked scanned
      have made : Url.Made won := scanUrl_made (congrArg Prod.fst scanned)
      refine ⟨?_, genuine.set url made⟩
      rintro found ⟨⟩
      exact made
    · exact ⟨by simp, genuine⟩

theorem made_not_relative {url : Url} (made : Url.Made url) : isRelative url.text = false := by
  obtain ⟨⟨letter, rest, scheme, alpha⟩, _⟩ := made.sound.scheme
  have other : letter ≠ '.' := by
    rintro rfl
    cases alpha
  simp [isRelative, Url.text, scheme, other]

section Resolution
variable (r : Resolver) (fileExists : Path → Bool) {specifier : Text} {context : ResolveContext}

theorem resolution_bare (bare : isRelative specifier = false) :
    r.resolution fileExists specifier context = ⟨.ok .passthrough, r, []⟩ := by
  simp [Resolver.resolution, bare]

theorem resolution_orphan (relative : isRelative specifier = true) (orphan : context.parent = none) :
    r.resolution fileExists specifier context = ⟨.error (.missingParent specifier), r, []⟩ := by
  simp [Resolver.resolution, relative, orphan]

theorem resolution_error {e : HookError} (failed : (r.resolution fileExists specifier context).value = .error e) :
    isRelative specifier = true ∧ context.parent = none ∧ e = .missingParent specifier := by
  unfold Resolver.resolution at failed
  split at failed
  · rename_i relative
    split at failed
    · rename_i orphan
      cases failed
      exact ⟨relative, orphan, rfl⟩
    · split at failed <;> cases failed
  · cases failed

theorem resolution_completed {url : Url} (genuine : r.cache.Genuine)
    (completed : (r.resolution fileExists specifier context).value = .ok (.completed url)) : Url.Made url := by
  unfold Resolver.resolution at completed
  split at completed
  · split at completed
    · cases completed
    · split at completed
      · cases completed
      · rename_i target _
        simp only [Except.ok.injEq] at completed
        cases found : (r.resolveUrl fileExists target).value with
        | none => simp [found] at completed
        | some other =>
          simp only [found, Option.map_some, Option.getD_some, Resolution.completed.injEq] at completed
          exact completed ▸ (resolveUrl_made genuine fileExists target).1 other found
  · cases completed

theorem resolution_genuine (genuine : r.cache.Genuine) :
    (r.resolution fileExists specifier context).resolver.cache.Genuine := by
  unfold Resolver.resolution
  split
  · split
    · exact genuine
    · split
      · exact genuine
      · exact (resolveUrl_made genuine fileExists _).2
  · exact genuine

end Resolution
end ImportHooks.Resolve

namespace ImportHooks.Hooks
open Resolve

namespace Layer

def consult (layer : Layer) (specifier : Text) (context : ResolveContext) : Answer (Except HookError Resolution) :=
  layer.resolver.resolution layer.fileExists specifier context

def after (specifier : Text) (context : ResolveContext) (layer : Layer) : Layer :=
  { layer with resolver := (layer.consult specifier context).resolver }

def Completes (layer : Layer) (specifier : Text) (context : ResolveContext) (url : Url) : Prop :=
  (layer.consult specifier context).value = .ok (.completed url)

end Layer

section Stack
variable (host : Host) {specifier : Text} {context : ResolveContext}

theorem resolveThrough_bare (layers : List Layer) (bare : isRelative specifier = false) :
    resolveThrough host layers specifier context =
      ⟨host.resolve specifier context, layers, layers.map fun _ => [], [(specifier, context)]⟩ := by
  induction layers with
  | nil => rfl
  | cons layer inner ih =>
    simp only [resolveThrough, Resolver.resolve, resolution_bare _ _ bare, Except.map, Resolution.handedOn, ih,
      List.map_cons]

theorem resolveThrough_orphan (outer : Layer) (inner : List Layer) (relative : isRelative specifier = true)
    (orphan : context.parent = none) :
    resolveThrough host (outer :: inner) specifier context =
      ⟨.error (.missingParent specifier), outer :: inner, (outer :: inner).map fun _ => [], []⟩ := by
  simp only [resolveThrough, Resolver.resolve, resolution_orphan _ _ relative orphan, Except.map, List.map_cons]

theorem resolveThrough_passed (layer : Layer) (inner : List Layer)
    (passed : (layer.consult specifier context).value = .ok .passthrough) :
    let run := resolveThrough host inner specifier context
    resolveThrough host (layer :: inner) specifier context =
      ⟨run.result, layer.after specifier context :: run.layers, (layer.consult specifier context).asked :: run.asked,
        run.calls⟩ := by
  unfold Layer.consult at passed
  simp only [resolveThrough, Resolver.resolve, passed, Except.map, Resolution.handedOn]
  rfl

theorem resolveThrough_completed (layer : Layer) (inner : List Layer) {url : Url}
    (genuine : layer.resolver.cache.Genuine) (completed : layer.Completes specifier context url) :
    resolveThrough host (layer :: inner) specifier context =
      ⟨host.resolve url.text context, layer.after specifier context :: inner,
        (layer.consult specifier context).asked :: inner.map fun _ => [], [(url.text, context)]⟩ := by
  have bare := made_not_relative (resolution_completed _ _ genuine completed)
  have inside : resolveThrough host inner url.text context = _ := resolveThrough_bare host inner bare
  unfold Layer.Completes Layer.consult at completed
  simp only [resolveThrough, Resolver.resolve, completed, Except.map, Resolution.handedOn, inside]
  rfl

theorem passes_of_not_completes {layer : Layer} {parent : Url} (given : context.parent = some parent)
    (not : ∀ url, ¬ layer.Completes specifier context url) :
    (layer.consult specifier context).value = .ok .passthrough := by
  cases answer : (layer.consult specifier context).value with
  | error e =>
    have orphan := (resolution_error _ _ answer).2.1
    rw [given] at orphan
    cases orphan
  | ok resolution =>
    cases resolution with
    | completed url => exact absurd answer (not url)
    | passthrough => rfl

theorem resolveThrough_outside (outside rest : List Layer) {parent : Url} (given : context.parent = some parent)
    (passed : ∀ layer ∈ outside, ∀ url, ¬ layer.Completes specifier context url) :
    let run := resolveThrough host rest specifier context
    resolveThrough host (outside ++ rest) specifier context =
      ⟨run.result, outside.map (Layer.after specifier context) ++ run.layers,
        outside.map (fun layer => (layer.consult specifier context).asked) ++ run.asked, run.calls⟩ := by
  induction outside with
  | nil => rfl
  | cons layer others ih =>
    have tail := ih fun other member => passed other (List.mem_cons_of_mem _ member)
    have head := passes_of_not_completes given (passed layer List.mem_cons_self)
    rw [List.cons_append, resolveThrough_passed host layer _ head, tail]
    rfl

theorem resolveThrough_genuine {layers : List Layer} (genuine : ∀ layer ∈ layers, layer.resolver.cache.Genuine) :
    ∀ layer ∈ (resolveThrough host layers specifier context).layers, layer.resolver.cache.Genuine := by
  induction layers with
  | nil => exact genuine
  | cons outer inner ih =>
    have outerLater : (outer.after specifier context).resolver.cache.Genuine :=
      resolution_genuine outer.resolver outer.fileExists (genuine outer List.mem_cons_self)
    have others : ∀ layer ∈ inner, layer.resolver.cache.Genuine :=
      fun other member => genuine other (List.mem_cons_of_mem _ member)
    cases answer : (outer.consult specifier context).value with
    | error e =>
      obtain ⟨relative, orphan, _⟩ := resolution_error _ _ answer
      rw [resolveThrough_orphan host outer inner relative orphan]
      exact genuine
    | ok resolution =>
      cases resolution with
      | passthrough =>
        rw [resolveThrough_passed host outer inner answer]
        exact List.forall_mem_cons.mpr ⟨outerLater, ih others⟩
      | completed url =>
        rw [resolveThrough_completed host outer inner (genuine outer List.mem_cons_self) answer]
        exact List.forall_mem_cons.mpr ⟨outerLater, others⟩

theorem resolveThrough_error {layers : List Layer} (genuine : ∀ layer ∈ layers, layer.resolver.cache.Genuine)
    {e : HookError} (failed : (resolveThrough host layers specifier context).result = .error e) :
    (isRelative specifier = true ∧ context.parent = none ∧ e = .missingParent specifier) ∨
      ∃ call ∈ (resolveThrough host layers specifier context).calls, host.resolve call.1 call.2 = .error e := by
  induction layers with
  | nil => exact .inr ⟨_, List.mem_cons_self, failed⟩
  | cons layer inner ih =>
    cases answer : (layer.consult specifier context).value with
    | error other =>
      obtain ⟨relative, orphan, _⟩ := resolution_error _ _ answer
      rw [resolveThrough_orphan host layer inner relative orphan] at failed
      cases failed
      exact .inl ⟨relative, orphan, rfl⟩
    | ok resolution =>
      cases resolution with
      | passthrough =>
        rw [resolveThrough_passed host layer inner answer] at failed ⊢
        exact ih (fun other member => genuine other (List.mem_cons_of_mem _ member)) failed
      | completed url =>
        rw [resolveThrough_completed host layer inner (genuine layer List.mem_cons_self) answer] at failed ⊢
        exact .inr ⟨_, List.mem_cons_self, failed⟩

end Stack

-- The ways of a specifier through a stack. Layers are consulted from outside until
-- one completes it; the host is asked once, with the URL of that layer or else with
-- the specifier as it came, and what it says is what comes back.
theorem stack_resolve_by_specifier (host : Host) (outer : Layer) (inner : List Layer) (specifier : Text)
    (context : ResolveContext) (genuine : ∀ layer ∈ outer :: inner, layer.resolver.cache.Genuine) :
    let layers := outer :: inner
    let run := resolveThrough host layers specifier context
    let after := Layer.after specifier context
    let asked := fun layer : Layer => (layer.consult specifier context).asked
    (isRelative specifier = false →
      run = ⟨host.resolve specifier context, layers, layers.map fun _ => [], [(specifier, context)]⟩) ∧
    (isRelative specifier = true → context.parent = none →
      run = ⟨.error (.missingParent specifier), layers, layers.map fun _ => [], []⟩) ∧
    (∀ parent, isRelative specifier = true → context.parent = some parent →
      (∀ outside k inside url, layers = outside ++ k :: inside →
        (∀ layer ∈ outside, ∀ other, ¬ layer.Completes specifier context other) →
        k.Completes specifier context url →
        run = ⟨host.resolve url.text context, outside.map after ++ after k :: inside,
          outside.map asked ++ asked k :: inside.map fun _ => [], [(url.text, context)]⟩) ∧
      ((∀ layer ∈ layers, ∀ url, ¬ layer.Completes specifier context url) →
        run = ⟨host.resolve specifier context, layers.map after, layers.map asked, [(specifier, context)]⟩)) ∧
    (∀ e, run.result = .error e →
      (isRelative specifier = true ∧ context.parent = none ∧ e = .missingParent specifier) ∨
        ∃ call ∈ run.calls, host.resolve call.1 call.2 = .error e) := by
  intro layers run after asked
  refine ⟨?_, ?_, ?_, ?_⟩
  · exact resolveThrough_bare host layers
  · exact resolveThrough_orphan host outer inner
  · intro parent _ given
    constructor
    · intro outside k inside url parted passed completed
      have parted : outer :: inner = outside ++ k :: inside := parted
      have kept : k.resolver.cache.Genuine := genuine k (by rw [parted]; simp)
      have whole := resolveThrough_outside host outside (k :: inside) given passed
      rw [resolveThrough_completed host k inside kept completed, ← parted] at whole
      exact whole
    · intro passed
      have whole := resolveThrough_outside host layers [] given passed
      simpa only [List.append_nil, resolveThrough] using whole
  · exact fun e failed => resolveThrough_error host genuine failed

def echoHost : Host := ⟨fun specifier _ => .ok ⟨specifier, none, false⟩, fun url _ => .error (.moduleNotFound url)⟩

def finder (path : String) : Layer := ⟨.ofRules defaultRules, exactly path, ⟨fun source _ => .ok source, ⟨[]⟩⟩⟩

-- The outermost layer finds nothing, the next one a typed file, and the innermost
-- one is not asked for the plain file that it could find.
theorem middle_layer_completes :
    let context : ResolveContext := ⟨some (localUrl ["app", "main.ts"]), [], []⟩
    let run := resolveThrough echoHost [finder "/none", finder "/app/util.ts", finder "/app/util.js"] "./util".toList
      context
    run.calls = [("file:///app/util.ts".toList, context)] ∧
      run.asked.map List.length = [4, 2, 0] ∧ run.layers.map (·.resolver.cache.size) = [0, 1, 0] := by
  intro context run
  have genuine : ∀ layer ∈ [finder "/none", finder "/app/util.ts", finder "/app/util.js"],
      layer.resolver.cache.Genuine := by
    intro layer member
    simp only [List.mem_cons, List.not_mem_nil, or_false] at member
    rcases member with rfl | rfl | rfl <;> exact Cache.genuine_empty
  have missed : ((finder "/none").consult "./util".toList context).value = .ok .passthrough := by decide +kernel
  have found : (finder "/app/util.ts").Completes "./util".toList context (localUrl ["app", "util.ts"]) := by
    unfold Layer.Completes
    decide +kernel
  have passed : ∀ layer ∈ [finder "/none"], ∀ other, ¬ layer.Completes "./util".toList context other := by
    intro layer member other completed
    rw [List.mem_singleton.mp member, Layer.Completes, missed] at completed
    cases completed
  have ran : run = _ := ((stack_resolve_by_specifier echoHost _ _ "./util".toList context genuine).2.2.1 _ (by decide)
    rfl).1 [finder "/none"] (finder "/app/util.ts") [finder "/app/util.js"] _ rfl passed found
  rw [ran]
  refine ⟨rfl, ?_, ?_⟩
  · decide +kernel
  · decide +kernel

end ImportHooks.Hooks
