import ImportHooks.Load.Dispatch
import ImportHooks.Proofs.Load.Kind
import ImportHooks.Proofs.Resolve.Endings
import ImportHooks.Proofs.Resolve.Verified

namespace ImportHooks.Resolve
open Hooks Load

def winner? (fileExists : Path → Bool) (rules : List Rule) (url : Url) : Option Rule :=
  url.filePath?.bind fun path => rules.find? fun rule => (wins? fileExists ⟨rule.apply path.text⟩).isSome

theorem winner?_of_firstWinner? {fileExists : Path → Bool} {rules : List Rule} {url found : Url}
    (won : firstWinner? fileExists rules url = some found) :
    ∃ path rule, url.filePath? = some path ∧ winner? fileExists rules url = some rule ∧ rule ∈ rules ∧
      wins? fileExists ⟨rule.apply path.text⟩ = some found := by
  unfold firstWinner? candidates at won
  cases converted : url.filePath? with
  | none => simp [converted] at won
  | some path =>
    simp only [converted, List.findSome?_map] at won
    obtain ⟨earlier, rule, later, parted, won, lost⟩ := List.findSome?_eq_some_iff.mp won
    simp only [Function.comp_apply] at won lost
    refine ⟨path, rule, rfl, ?_, by simp [parted], won⟩
    simp only [winner?, converted, Option.bind_some]
    refine List.find?_eq_some_iff_append.mpr ⟨by simp [won], earlier, later, parted, fun other member => ?_⟩
    simp [lost other member]

theorem default_winner_ending {fileExists : Path → Bool} {rule : Rule} {path : Path} {found : Url}
    (member : rule ∈ defaultRules) (won : wins? fileExists ⟨rule.apply path.text⟩ = some found) :
    (if rule ∈ typedRules then ".ts" else ".js").toList <:+ found.text := by
  obtain ⟨front, made⟩ := default_rule_ending member path.text
  obtain ⟨-, converted⟩ := wins?_eq_some won
  rw [made] at converted
  have solid {d e f : Char} (front : Text) : Path.isIdle (front ++ [d, e, f]) = false := Path.isIdle_of_length (by simp)
  split at converted
  · rename_i typed
    rw [if_pos typed]
    exact Url.text_extended (by decide) solid (by decide) converted
  · rename_i untyped
    rw [if_neg untyped]
    exact Url.text_extended (by decide) solid (by decide) converted

theorem kind_of_ending {typed : Prop} [Decidable typed] {url : Text} (ends : (if typed then ".ts" else ".js").toList <:+ url) :
    Kind.ofUrl url = if typed then .typescript else .other := by
  split at ends
  · rename_i yes
    rw [if_pos yes]
    exact Kind.ofUrl_typescript ⟨".ts", List.mem_cons_self, ends⟩
  · rename_i no
    rw [if_neg no]
    refine Kind.ofUrl_other ?_ ?_ ?_
    · rintro ⟨typed, member, also⟩
      have apart : ∀ typed ∈ [".ts", ".tsx", ".mts", ".cts"],
          ¬ ".js".toList <:+ typed.toList ∧ ¬ typed.toList <:+ ".js".toList := by decide +kernel
      exact Kind.not_suffix_of_apart (apart typed member) ends also
    · exact Kind.not_suffix_of_apart (by decide +kernel) ends
    · exact Kind.not_suffix_of_apart (by decide +kernel) ends

-- Whatever was called before and whatever existed then, a completed module is typed
-- when a rule for typed sources found it, and otherwise it goes on to the host as it is.
theorem completed_module_loads_by_rule (past : List Moment) (fileExists : Path → Bool) (specifier : Text)
    (context : ResolveContext) (url : Url)
    (completed : ((Resolver.afterAll defaultRules past).resolution fileExists specifier context).value = .ok (.completed url)) :
    (∀ {α : Type} (next : Text → ResolveContext → α),
      ((Resolver.afterAll defaultRules past).resolve fileExists next specifier context).value =
        .ok (next url.text context)) ∧
    (".js".toList <:+ url.text ∨ ".ts".toList <:+ url.text) ∧
    Kind.ofUrl url.text ≠ .stylesheet ∧ Kind.ofUrl url.text ≠ .json ∧
    ∃ key, joined? specifier context = some key ∧
      ∃ maker : Maker defaultRules (past ++ [⟨fileExists, .resolution specifier context⟩]) key url,
        ∃ path rule, maker.target.filePath? = some path ∧
          winner? maker.moment.fileExists defaultRules maker.target = some rule ∧
          wins? maker.moment.fileExists ⟨rule.apply path.text⟩ = some url ∧
          (Kind.ofUrl url.text = .typescript ↔ rule ∈ typedRules) ∧
          ∀ (dispatcher : Dispatcher) (store : Tsconfig.Store) (next : Loader) (loading : LoadContext),
            dispatcher.load store next url.text loading =
              if rule ∈ typedRules then dispatcher.loadTyped store next url.text else next url.text loading := by
  obtain ⟨key, joined, success⟩ := completed_success completed
  obtain ⟨maker⟩ := firstSuccess?_maker success
  obtain ⟨path, rule, converted, winner, member, won⟩ := winner?_of_firstWinner? maker.success
  have ends := default_winner_ending member won
  have kind := kind_of_ending ends
  refine ⟨fun next => ?_, ?_, ?_, ?_, key, joined, maker, path, rule, converted, winner, won, ?_, ?_⟩
  · simp only [Resolver.resolve, completed]
    rfl
  · split at ends
    · exact .inr ends
    · exact .inl ends
  · rw [kind]
    split <;> simp
  · rw [kind]
    split <;> simp
  · rw [kind]
    by_cases typed : rule ∈ typedRules
    · simp [typed]
    · simp [typed]
  · intro dispatcher store next loading
    rw [Dispatcher.load, kind]
    by_cases typed : rule ∈ typedRules
    · simp only [if_pos typed]
    · simp only [if_neg typed]

theorem stylesheet_specifier_loads_typed :
    let context : ResolveContext := ⟨some (localUrl ["app", "main.js"]), [], []⟩
    let answer := (Resolver.afterAll defaultRules busyPast).resolution (exactly "/app/theme.css.ts") "./theme.css?v=1.json".toList context
    let url := localUrl ["app", "theme.css.ts"]
    answer.value = .ok (.completed url) ∧
      ∀ (dispatcher : Dispatcher) (store : Tsconfig.Store) (next : Loader) (loading : LoadContext),
        dispatcher.load store next url.text loading = dispatcher.loadTyped store next url.text := by
  intro context answer url
  have completed : answer.value = .ok (.completed url) := by decide +kernel
  obtain ⟨-, -, -, -, key, -, maker, path, rule, -, -, -, kind, loads⟩ :=
    completed_module_loads_by_rule busyPast _ _ context url completed
  have typed : rule ∈ typedRules := kind.mp (by decide +kernel)
  refine ⟨completed, fun dispatcher store next loading => ?_⟩
  rw [loads, if_pos typed]

end ImportHooks.Resolve
