import ImportHooks.Hooks.Stack
import ImportHooks.Proofs.Load.Kind

namespace ImportHooks.Hooks
open Load Tsconfig

-- What engines make of a source, the first one first: the code or the first
-- failure, and what each engine that ran was given.
def transformAll (store : Store) (url : Text) : List Dispatcher → Text → Except HookError Text × List (Text × Options)
  | [], source => (.ok source, [])
  | d :: outer, source =>
    let options : Options := ⟨(readTarget store d.project).1⟩
    match d.engine source options with
    | .error reason => (.error (.transform url reason), [(source, options)])
    | .ok code =>
      let (result, given) := transformAll store url outer code
      (result, (source, options) :: given)

theorem transformAll_append (store : Store) (url : Text) (first second : List Dispatcher) (source : Text) :
    transformAll store url (first ++ second) source =
      match transformAll store url first source with
      | (.error e, given) => (.error e, given)
      | (.ok code, given) =>
        ((transformAll store url second code).1, given ++ (transformAll store url second code).2) := by
  induction first generalizing source with
  | nil => rfl
  | cons d outer ih =>
    simp only [List.cons_append, transformAll]
    cases d.engine source ⟨(readTarget store d.project).1⟩ with
    | error reason => rfl
    | ok code =>
      simp only [ih]
      rcases transformAll store url outer code with ⟨e | code, given⟩ <;> rfl

def typedRun (store : Store) (url : Text) (engines : List Dispatcher) : Except HookError LoadOutput → Run
  | .error e => ⟨.error e, [(url, .ofFormat .module)], []⟩
  | .ok raw =>
    let (result, given) := transformAll store url engines (raw.source.getD [])
    ⟨result.map LoadOutput.ofSource, [(url, .ofFormat .module)], given⟩

theorem loadTyped_typedRun (d : Dispatcher) (store : Store) (next : Loader) (url : Text) (engines : List Dispatcher)
    (loaded : Except HookError LoadOutput) (inner : next url (.ofFormat .module) = typedRun store url engines loaded) :
    d.loadTyped store next url = typedRun store url (engines ++ [d]) loaded := by
  simp only [Dispatcher.loadTyped, inner]
  cases loaded with
  | error e => rfl
  | ok raw =>
    simp only [typedRun, transformAll_append]
    rcases transformAll store url engines (raw.source.getD []) with ⟨e | code, given⟩
    · rfl
    · simp only [Except.map, LoadOutput.ofSource, Option.getD_some, transformAll]
      cases d.engine code ⟨(readTarget store d.project).1⟩ <;> rfl

theorem loadTyped_host (d : Dispatcher) (store : Store) (host : Host) (url : Text) :
    d.loadTyped store (loadThrough host store []) url =
      typedRun store url [d] (host.load url (.ofFormat .module)) := by
  simp only [Dispatcher.loadTyped, loadThrough, typedRun]
  cases host.load url (.ofFormat .module) with
  | error e => rfl
  | ok raw =>
    simp only [transformAll]
    cases d.engine (raw.source.getD []) ⟨(readTarget store d.project).1⟩ <;> rfl

def engines (layers : List Layer) : List Dispatcher := (layers.map Layer.dispatcher).reverse

theorem loadThrough_cons (host : Host) (store : Store) (layer : Layer) (inner : List Layer) (url : Text)
    (context : LoadContext) : loadThrough host store (layer :: inner) url context =
      layer.dispatcher.load store (loadThrough host store inner) url context := rfl

theorem loadThrough_typed (host : Host) (store : Store) (outer : Layer) (inner : List Layer) (url : Text)
    (context : LoadContext) (typed : Kind.ofUrl url = .typescript) :
    loadThrough host store (outer :: inner) url context =
      typedRun store url (engines (outer :: inner)) (host.load url (.ofFormat .module)) := by
  induction inner generalizing outer context with
  | nil =>
    rw [loadThrough_cons]
    simp only [Dispatcher.load, typed]
    exact loadTyped_host outer.dispatcher store host url
  | cons next rest ih =>
    have around := loadTyped_typedRun outer.dispatcher store _ url _ _ (ih next (.ofFormat .module))
    have engineLast : engines (outer :: next :: rest) = engines (next :: rest) ++ [outer.dispatcher] := by
      simp [engines]
    rw [loadThrough_cons, engineLast]
    simpa only [Dispatcher.load, typed] using around

theorem loadThrough_stylesheet (host : Host) (store : Store) (outer : Layer) (inner : List Layer) (url : Text)
    (context : LoadContext) (styled : Kind.ofUrl url = .stylesheet) :
    loadThrough host store (outer :: inner) url context = ⟨.ok ⟨.module, some emptyStylesheet, true⟩, [], []⟩ := by
  rw [loadThrough_cons]
  simp only [Dispatcher.load, styled]
  rfl

theorem loadThrough_json (host : Host) (store : Store) (outer : Layer) (inner : List Layer) (url : Text)
    (context : LoadContext) (named : Kind.ofUrl url = .json) :
    loadThrough host store (outer :: inner) url context =
      loadThrough host store [] url { context with attributes := Dispatcher.jsonAttributes } := by
  induction inner generalizing outer context with
  | nil => simp only [loadThrough, Dispatcher.load, named]
  | cons next rest ih =>
    rw [loadThrough_cons]
    simp only [Dispatcher.load, named]
    exact ih next _

theorem loadThrough_other (host : Host) (store : Store) (layers : List Layer) (url : Text) (context : LoadContext)
    (unknown : Kind.ofUrl url = .other) :
    loadThrough host store layers url context = loadThrough host store [] url context := by
  induction layers with
  | nil => rfl
  | cons outer inner ih =>
    rw [loadThrough_cons]
    simp only [Dispatcher.load, unknown]
    exact ih

def fixedOptions : Text := "\x7b\"format\":\"esm\",\"loader\":\"ts\"".toList

theorem fixedOptions_written (options : Options) : fixedOptions <+: options.written := by
  unfold fixedOptions Options.written
  rw [List.append_assoc]
  exact List.prefix_append _ _

-- The four ways of a module through a stack, told by the ending of its URL. The
-- host is asked once, but for a stylesheet, for which nothing is asked at all.
theorem stack_load_by_ending (host : Host) (store : Store) (outer : Layer) (inner : List Layer) (url : Text)
    (context : LoadContext) :
    let run := loadThrough host store (outer :: inner) url context
    (Kind.HasTypedEnding url →
      let asked : LoadContext := ⟨some .module, [], []⟩
      run.calls = [(url, asked)] ∧
      (∀ e, host.load url asked = .error e → run.result = .error e ∧ run.transforms = []) ∧
      (∀ raw, host.load url asked = .ok raw →
        let made := transformAll store url (engines (outer :: inner)) (raw.source.getD [])
        run.transforms = made.2 ∧ (∀ given ∈ made.2, fixedOptions <+: given.2.written) ∧
        (∀ e, made.1 = .error e → run.result = .error e) ∧
        (∀ code, made.1 = .ok code → run.result = .ok ⟨.module, some code, false⟩))) ∧
    (".css".toList <:+ url →
      run.result = .ok ⟨.module, some "export default '';".toList, true⟩ ∧ run.calls = [] ∧ run.transforms = []) ∧
    (".json".toList <:+ url →
      let asked := { context with attributes := [("type".toList, "json".toList)] }
      run.calls = [(url, asked)] ∧ run.result = host.load url asked ∧ run.transforms = []) ∧
    (¬ Kind.HasTypedEnding url → ¬ ".css".toList <:+ url → ¬ ".json".toList <:+ url →
      run.calls = [(url, context)] ∧ run.result = host.load url context ∧ run.transforms = []) := by
  intro run
  refine ⟨?_, ?_, ?_, ?_⟩
  · intro typed
    have same : run = _ := loadThrough_typed host store outer inner url context (Kind.ofUrl_typescript typed)
    simp only [LoadContext.ofFormat] at same
    refine ⟨?_, ?_, ?_⟩
    · rw [same]
      cases host.load url ⟨some .module, [], []⟩ <;> rfl
    · intro e failed
      simp only [same, failed, typedRun, and_self]
    · intro raw loaded
      rw [loaded] at same
      rw [same]
      refine ⟨rfl, fun given _ => fixedOptions_written given.2, ?_, ?_⟩
      · intro e failed
        simp only [typedRun, failed, Except.map]
      · intro code made
        simp only [typedRun, made, Except.map, LoadOutput.ofSource]
  · intro ends
    have same : run = _ := loadThrough_stylesheet host store outer inner url context (Kind.ofUrl_stylesheet ends)
    rw [same]
    exact ⟨rfl, rfl, rfl⟩
  · intro ends
    have same : run = _ := loadThrough_json host store outer inner url context (Kind.ofUrl_json ends)
    rw [same]
    exact ⟨rfl, rfl, rfl⟩
  · intro untyped unstyled unnamed
    have same : run = _ := loadThrough_other host store (outer :: inner) url context
      (Kind.ofUrl_other untyped unstyled unnamed)
    rw [same]
    exact ⟨rfl, rfl, rfl⟩

def constantHost : Host := ⟨fun url _ => .ok ⟨url, none, false⟩, fun _ _ => .ok ⟨.commonjs, some "x".toList, true⟩⟩

-- The engine writes its mark and all that it is asked for behind a source. It refuses
-- one that carries the mark already.
def recordingLayer (mark : Char) (project : Path) : Layer where
  resolver := .ofRules []
  fileExists _ := false
  dispatcher := ⟨fun source options =>
    if source.contains mark then .error "marked".toList else .ok (source ++ mark :: options.written), project⟩

def projectOf (name target : String) : Place × Entry :=
  let text := "\x7b\"compilerOptions\":\x7b\"target\":\"".toList ++ target.toList ++ "\"\x7d\x7d".toList
  ([name.toList], .file (Text.utf8 text))

def twoProjects : Store := .ofDisk ⟨[projectOf "outer.json" "es5", projectOf "inner.json" "es2020"], []⟩

def outerProject : Path := ⟨"/outer.json".toList⟩
def innerProject : Path := ⟨"/inner.json".toList⟩

def plainContext : LoadContext := ⟨some .commonjs, ["import".toList], []⟩

def loadTwice (outer inner : Char) (url : String) : Run :=
  loadThrough constantHost twoProjects [recordingLayer outer outerProject, recordingLayer inner innerProject] url.toList
    plainContext

def onceRecorded : Text := "xI".toList ++ Options.written ⟨some .es2020⟩
def twiceRecorded : Text := onceRecorded ++ 'O' :: Options.written ⟨some .es5⟩

-- Each layer's engine is asked for the level that its own project names.
theorem two_layers_load :
    (Kind.HasTypedEnding "file:///a.mts".toList ∧
      (loadTwice 'O' 'I' "file:///a.mts").calls = [("file:///a.mts".toList, ⟨some .module, [], []⟩)] ∧
      (loadTwice 'O' 'I' "file:///a.mts").transforms = [("x".toList, ⟨some .es2020⟩), (onceRecorded, ⟨some .es5⟩)] ∧
      (loadTwice 'O' 'I' "file:///a.mts").result = .ok ⟨.module, some twiceRecorded, false⟩ ∧
      (loadTwice 'I' 'I' "file:///a.mts").result = .error (.transform "file:///a.mts".toList "marked".toList)) ∧
    (".css".toList <:+ "file:///a.css".toList ∧ (loadTwice 'O' 'I' "file:///a.css").calls = []) ∧
    (".json".toList <:+ "file:///a.json".toList ∧
      (loadTwice 'O' 'I' "file:///a.json").calls =
        [("file:///a.json".toList, ⟨some .commonjs, ["import".toList], Dispatcher.jsonAttributes⟩)]) ∧
    (¬ Kind.HasTypedEnding "file:///a.ts?raw".toList ∧
      (loadTwice 'O' 'I' "file:///a.ts?raw").calls = [("file:///a.ts?raw".toList, plainContext)]) := by
  have outerLevel : (readTarget twoProjects outerProject).1 = some .es5 := by decide +kernel
  have innerLevel : (readTarget twoProjects innerProject).1 = some .es2020 := by decide +kernel
  have made : transformAll twoProjects "file:///a.mts".toList
      [(recordingLayer 'I' innerProject).dispatcher, (recordingLayer 'O' outerProject).dispatcher] "x".toList =
        (.ok twiceRecorded, [("x".toList, ⟨some .es2020⟩), (onceRecorded, ⟨some .es5⟩)]) := by
    simp only [transformAll, recordingLayer, innerLevel, outerLevel]
    rfl
  have refused : (transformAll twoProjects "file:///a.mts".toList
      [(recordingLayer 'I' innerProject).dispatcher, (recordingLayer 'I' outerProject).dispatcher] "x".toList).1 =
        .error (.transform "file:///a.mts".toList "marked".toList) := by
    simp only [transformAll, recordingLayer, innerLevel, outerLevel]
    rfl
  have typed : Kind.HasTypedEnding "file:///a.mts".toList := ⟨".mts", by decide, by decide +kernel⟩
  have untyped : ¬ Kind.HasTypedEnding "file:///a.ts?raw".toList := by unfold Kind.HasTypedEnding; decide +kernel
  have styled : ".css".toList <:+ "file:///a.css".toList := by decide +kernel
  have named : ".json".toList <:+ "file:///a.json".toList := by decide +kernel
  have told (outer inner : Char) (url : Text) := stack_load_by_ending constantHost twoProjects
    (recordingLayer outer outerProject) [recordingLayer inner innerProject] url plainContext
  refine ⟨⟨typed, ?_⟩, ⟨styled, ?_⟩, ⟨named, ?_⟩, ⟨untyped, ?_⟩⟩
  · obtain ⟨calls, -, loaded⟩ := (told 'O' 'I' _).1 typed
    obtain ⟨transforms, -, -, result⟩ := loaded _ rfl
    obtain ⟨-, -, again⟩ := (told 'I' 'I' _).1 typed
    obtain ⟨-, -, failed, -⟩ := again _ rfl
    exact ⟨calls, transforms.trans (congrArg Prod.snd made), result _ (congrArg Prod.fst made), failed _ refused⟩
  · exact ((told 'O' 'I' _).2.1 styled).2.1
  · exact ((told 'O' 'I' _).2.2.1 named).1
  · exact ((told 'O' 'I' _).2.2.2 untyped (by decide +kernel) (by decide +kernel)).1

end ImportHooks.Hooks
