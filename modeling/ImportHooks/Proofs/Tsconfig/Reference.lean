import Mathlib.Logic.Relation
import ImportHooks.Tsconfig.Search

namespace ImportHooks.Tsconfig

theorem same_iff (p q : Path) : p.same q = true ↔ Visit.of p = Visit.of q := by
  simp only [Path.same, Path.components, decide_eq_true_eq, Visit.of, Visit.mk.injEq, Prod.mk.injEq]
  constructor
  · rintro ⟨anchors, names⟩
    exact ⟨congrArg List.length names, anchors, names⟩
  · rintro ⟨_, anchors, names⟩
    exact ⟨anchors, names⟩

namespace Files

def config? (files : Files) (path : Path) : Option Config := (Config.load files path).1

def base? (files : Files) (path : Path) (entry : Text) : Option Path :=
  (firstFile files (candidates (directoryOf path) entry)).1

def bases (files : Files) (path : Path) (config : Config) : List Path :=
  config.entries.filterMap (files.base? path)

def Leads (files : Files) (path base : Path) : Prop :=
  ∃ config, files.config? path = some config ∧ base ∈ files.bases path config

def Reached (files : Files) (start : Path) : Path → Prop := Relation.ReflTransGen files.Leads start

-- Two spellings of one path read the same and lead to the same bases. Only the
-- spellings that a search from `start` may come to count.
structure Coherent (files : Files) (start : Path) : Prop where
  reads : ∀ p q, files.Reached start p → files.Reached start q → p.same q →
    (files.read p).toOption = (files.read q).toOption
  locates : ∀ p q config, files.Reached start p → files.Reached start q → p.same q →
    files.config? p = some config →
    (files.bases p config).map Path.components = (files.bases q config).map Path.components

theorem config?_eq (files : Files) (path : Path) :
    files.config? path = (files.read path).toOption.bind Config.parse? := by
  unfold config? Config.load
  cases files.read path with
  | error failure => cases failure <;> rfl
  | ok text => cases parsed : Config.parse? text <;> simp [Except.toOption, parsed]

end Files

-- The reference search. It knows the chain of configs that lead to a path and
-- cuts nothing but a config that is on its own chain.
inductive Effective (files : Files) : List Path → Path → Option Text → Prop where
  | circular {chain path} (again : ∃ q ∈ chain, q.same path) : Effective files chain path none
  | unread {chain path} (fresh : ∀ q ∈ chain, ¬ q.same path) (failed : files.config? path = none) :
      Effective files chain path none
  | own {chain path config level} (fresh : ∀ q ∈ chain, ¬ q.same path) (read : files.config? path = some config)
      (named : config.target = some level) : Effective files chain path (some level)
  | inherited {chain path config earlier base later level} (fresh : ∀ q ∈ chain, ¬ q.same path)
      (read : files.config? path = some config) (unnamed : config.target = none)
      (split : files.bases path config = earlier ++ base :: later)
      (found : Effective files (path :: chain) base (some level))
      (passed : ∀ b ∈ later, Effective files (path :: chain) b none) : Effective files chain path (some level)
  | barren {chain path config} (fresh : ∀ q ∈ chain, ¬ q.same path) (read : files.config? path = some config)
      (unnamed : config.target = none)
      (passed : ∀ b ∈ files.bases path config, Effective files (path :: chain) b none) :
      Effective files chain path none

theorem split_cases {α : Type} {earlier earlier' later later' : List α} {a b : α}
    (same : earlier ++ a :: later = earlier' ++ b :: later') : a = b ∨ a ∈ later' ∨ b ∈ later := by
  rcases List.append_eq_append_iff.mp same with ⟨_ | ⟨c, between⟩, _, rest⟩ | ⟨_ | ⟨c, between⟩, _, rest⟩
  · simp only [List.nil_append, List.cons.injEq] at rest
    exact .inl rest.1
  · simp only [List.cons_append, List.cons.injEq] at rest
    exact .inr (.inr (by simp [rest.2]))
  · simp only [List.nil_append, List.cons.injEq] at rest
    exact .inl rest.1.symm
  · simp only [List.cons_append, List.cons.injEq] at rest
    exact .inr (.inl (by simp [rest.2]))

theorem Effective.unique {files : Files} {chain : List Path} {path : Path} {one other : Option Text}
    (first : Effective files chain path one) (second : Effective files chain path other) : one = other := by
  induction first generalizing other with
  | circular again =>
    obtain ⟨q, member, same⟩ := again
    cases second with
    | circular | unread | barren => rfl
    | own fresh => exact absurd same (fresh q member)
    | inherited fresh => exact absurd same (fresh q member)
  | unread fresh failed => cases second <;> simp_all
  | own fresh read named =>
    cases second with
    | circular again =>
      obtain ⟨q, member, same⟩ := again
      exact absurd same (fresh q member)
    | unread _ failed => simp [read] at failed
    | own _ read' named' => simp_all
    | inherited _ read' unnamed => simp_all
    | barren _ read' unnamed => simp_all
  | inherited fresh read unnamed split found passed ihFound ihPassed =>
    cases second with
    | circular again =>
      obtain ⟨q, member, same⟩ := again
      exact absurd same (fresh q member)
    | unread _ failed => simp [read] at failed
    | own _ read' named' => simp_all
    | inherited _ read' _ split' found' passed' =>
      cases Option.some.inj (read.symm.trans read')
      rcases split_cases (split.symm.trans split') with rfl | behind | behind
      · exact ihFound found'
      · exact nomatch ihFound (passed' _ behind)
      · exact nomatch ihPassed _ behind found'
    | barren _ read' _ passed' =>
      cases Option.some.inj (read.symm.trans read')
      exact nomatch ihFound (passed' _ (by simp [split]))
  | barren fresh read unnamed passed ih =>
    cases second with
    | circular | unread | barren => rfl
    | own _ read' named' => simp_all
    | inherited _ read' _ split' found' =>
      cases Option.some.inj (read.symm.trans read')
      exact nomatch ih _ (by simp [split']) found'

end ImportHooks.Tsconfig
