import ImportHooks.Proofs.Path.Names
import ImportHooks.Proofs.Pattern.Words
import ImportHooks.Resolve.Rule

namespace ImportHooks.Resolve
open Text Pattern

def moduleEndings : List Text := [".js".toList, ".ts".toList]

def indexNames : List Text := ["index".toList, "index.js".toList, "index.ts".toList]

-- The separator of an index ending is optional.
def indexEndings : List Text := indexNames ++ ["/".toList, "\\".toList].flatMap fun separator => indexNames.map (separator ++ ·)

theorem mem_pair {a b x : Char} (ordered : a.toNat ≤ b.toNat) :
    (Charset.mk [(a.toNat, a.toNat), (b.toNat, b.toNat)]).mem x = true ↔ x ∈ [a, b] := by
  simp only [Charset.mem, holds, Bool.and_eq_true, Bool.or_eq_true, decide_eq_true_eq, Bool.or_false, List.mem_cons,
    List.not_mem_nil, or_false, ← Char.toNat_inj]
  omega

def moduleExtension : Expr :=
  .cat (.literal ['.']) (.cat (.set ⟨[('j'.toNat, 'j'.toNat), ('t'.toNat, 't'.toNat)]⟩ true) (.literal ['s']))

theorem writes_moduleExtension : moduleExtension.Writes moduleEndings :=
  (writes_literal _).cat ((writes_set true fun _ => mem_pair (by decide)).cat (writes_literal _))

def indexTail : Expr :=
  .cat (.rep (.set ⟨[('/'.toNat, '/'.toNat), ('\\'.toNat, '\\'.toNat)]⟩ true) 0 (some 1) true)
    (.cat (.literal "index".toList) (.rep moduleExtension 0 (some 1) true))

theorem writes_indexTail : indexTail.Writes indexEndings :=
  ((writes_set true fun _ => mem_pair (by decide)).optional true).cat
    ((writes_literal _).cat (writes_moduleExtension.optional true))

theorem fileEnding_eq : fileEnding = atEnd moduleExtension true := by decide +kernel

theorem indexEnding_eq : indexEnding = atEnd indexTail true := by decide +kernel

theorem apply_fileEnding (suffix path : Text) : Rule.apply ⟨fileEnding, suffix⟩ path = stem moduleEndings path ++ suffix := by
  rw [Rule.apply, fileEnding_eq, replaceFirst_atEnd writes_moduleExtension]

theorem apply_indexEnding (suffix path : Text) : Rule.apply ⟨indexEnding, suffix⟩ path = stem indexEndings path ++ suffix := by
  rw [Rule.apply, indexEnding_eq, replaceFirst_atEnd writes_indexTail]

theorem apply_defaultRules (path : Text) :
    defaultRules.map (·.apply path) =
      [stem moduleEndings path ++ ".js".toList, stem moduleEndings path ++ ".ts".toList,
        stem indexEndings path ++ "/index.js".toList, stem indexEndings path ++ "/index.ts".toList] := by
  simp only [defaultRules, List.map_cons, List.map_nil, apply_fileEnding, apply_indexEnding]

inductive Extension : Text → Prop where
  | script : Extension ".js".toList
  | typed : Extension ".ts".toList

inductive IndexTail : Text → Prop where
  | mk {separator extension : Text} (apart : separator = [] ∨ separator = ['/'] ∨ separator = ['\\'])
      (extended : extension = [] ∨ Extension extension) : IndexTail (separator ++ ("index".toList ++ extension))

theorem mem_moduleEndings {text : Text} : text ∈ moduleEndings ↔ Extension text := by
  constructor
  · intro member
    rcases List.mem_pair.mp member with rfl | rfl
    · exact .script
    · exact .typed
  · rintro (_ | _) <;> decide

theorem mem_indexEndings {text : Text} : text ∈ indexEndings ↔ IndexTail text := by
  have spelled : indexEndings =
      [[], ['/'], ['\\']].flatMap fun separator => ([] :: moduleEndings).map fun extension =>
        separator ++ ("index".toList ++ extension) := by
    decide
  simp only [spelled, List.mem_flatMap, List.mem_map]
  constructor
  · rintro ⟨separator, apart, extension, extended, rfl⟩
    refine .mk (by simpa using apart) ?_
    rwa [List.mem_cons, mem_moduleEndings] at extended
  · rintro ⟨apart, extended⟩
    refine ⟨_, by simpa using apart, _, ?_, rfl⟩
    rwa [List.mem_cons, mem_moduleEndings]

structure LongestEnding (Kind : Text → Prop) (text front ending : Text) : Prop where
  whole : text = front ++ ending
  kind : ending = [] ∨ Kind ending
  longest : ∀ other, Kind other → other <:+ text → other.length ≤ ending.length

theorem stem_longestEnding {Kind : Text → Prop} {endings : List Text} (listed : ∀ ending, ending ∈ endings ↔ Kind ending)
    (text : Text) : ∃ ending, LongestEnding Kind text (stem endings text) ending := by
  obtain ⟨ending, parted, kind⟩ := stem_split endings text
  exact ⟨ending, parted, kind.imp_right (listed ending).mp, fun other is => stem_longest parted other ((listed other).mpr is)⟩

theorem ofPattern?_filePattern (suffix : Text) : Rule.ofPattern? filePattern suffix = some ⟨fileEnding, suffix⟩ := by
  have read : Pattern.read? filePattern = some fileEnding := (Option.some_get _).symm
  have fits : fileEnding.fits = true := by decide +kernel
  rw [Rule.ofPattern?, read, Option.bind_eq_bind, Option.bind_some, if_pos fits]

theorem ofPattern?_indexPattern (suffix : Text) : Rule.ofPattern? indexPattern suffix = some ⟨indexEnding, suffix⟩ := by
  have read : Pattern.read? indexPattern = some indexEnding := (Option.some_get _).symm
  have fits : indexEnding.fits = true := by decide +kernel
  rw [Rule.ofPattern?, read, Option.bind_eq_bind, Option.bind_some, if_pos fits]

def defaultPatterns : List (Text × Text) :=
  [(filePattern, ".js".toList), (filePattern, ".ts".toList), (indexPattern, "/index.js".toList),
    (indexPattern, "/index.ts".toList)]

-- A rule of either pattern does plain surgery on any text: its longest ending of the
-- kind gives way to the suffix of the rule, and what stands before it stays.
theorem patterns_replace_longest_ending (text suffix : Text) :
    (∃ rule front ending, Rule.ofPattern? filePattern suffix = some rule ∧ LongestEnding Extension text front ending ∧
      rule.apply text = front ++ suffix) ∧
    (∃ rule front ending, Rule.ofPattern? indexPattern suffix = some rule ∧ LongestEnding IndexTail text front ending ∧
      rule.apply text = front ++ suffix) ∧
    defaultPatterns.mapM (fun rule => Rule.ofPattern? rule.1 rule.2) = some defaultRules := by
  refine ⟨?_, ?_, ?_⟩
  · obtain ⟨ending, parted⟩ := stem_longestEnding (fun _ => mem_moduleEndings) text
    exact ⟨_, _, ending, ofPattern?_filePattern suffix, parted, apply_fileEnding suffix text⟩
  · obtain ⟨ending, parted⟩ := stem_longestEnding (fun _ => mem_indexEndings) text
    exact ⟨_, _, ending, ofPattern?_indexPattern suffix, parted, apply_indexEnding suffix text⟩
  · simp only [defaultPatterns, List.mapM_cons, List.mapM_nil, ofPattern?_filePattern, ofPattern?_indexPattern]
    rfl

example :
    Rule.apply ⟨fileEnding, ['+']⟩ "a.ts/b.js.ts".toList = "a.ts/b.js+".toList ∧
      Rule.apply ⟨indexEnding, ['+']⟩ "index/\\index\\index.js".toList = "index/\\index+".toList := by
  decide +kernel

def typedRules : List Rule := [⟨fileEnding, ".ts".toList⟩, ⟨indexEnding, "/index.ts".toList⟩]

theorem default_rule_ending {rule : Rule} (member : rule ∈ defaultRules) (path : Text) :
    ∃ front, rule.apply path = front ++ (if rule ∈ typedRules then ".ts" else ".js").toList := by
  simp only [defaultRules, List.mem_cons, List.not_mem_nil, or_false] at member
  rcases member with rfl | rfl | rfl | rfl
  · rw [apply_fileEnding, if_neg (by decide +kernel)]
    exact ⟨_, rfl⟩
  · rw [apply_fileEnding, if_pos (by decide +kernel)]
    exact ⟨_, rfl⟩
  · rw [apply_indexEnding, if_neg (by decide +kernel)]
    exact ⟨stem indexEndings path ++ "/index".toList, by rw [List.append_assoc]; rfl⟩
  · rw [apply_indexEnding, if_pos (by decide +kernel)]
    exact ⟨stem indexEndings path ++ "/index".toList, by rw [List.append_assoc]; rfl⟩

theorem default_rule_rooted {rule : Rule} (member : rule ∈ defaultRules) {path : Path} (rooted : path.isAbsolute = true) :
    (Path.mk (rule.apply path.text)).isAbsolute = true := by
  obtain ⟨rest, begins⟩ := (Path.isAbsolute_iff path).mp rooted
  have file (suffix : Text) : (Path.mk (stem moduleEndings path.text ++ suffix)).isAbsolute = true := by
    have unlisted : '/' :: rest ∉ moduleEndings := by simp [moduleEndings]
    rw [begins, stem_of_not_mem unlisted]
    exact (Path.isAbsolute_iff _).mpr ⟨_, rfl⟩
  have index (suffix : Text) : (Path.mk (stem indexEndings path.text ++ '/' :: suffix)).isAbsolute = true := by
    rw [begins, stem]
    split
    · exact (Path.isAbsolute_iff _).mpr ⟨_, rfl⟩
    · exact (Path.isAbsolute_iff _).mpr ⟨_, rfl⟩
  simp only [defaultRules, List.mem_cons, List.not_mem_nil, or_false] at member
  rcases member with rfl | rfl | rfl | rfl
  · rw [apply_fileEnding]
    exact file _
  · rw [apply_fileEnding]
    exact file _
  · rw [apply_indexEnding]
    exact index _
  · rw [apply_indexEnding]
    exact index _

theorem stem_moduleEndings_behind (front name : Text) :
    stem moduleEndings (front ++ '/' :: name) = front ++ '/' :: stem moduleEndings name := by
  refine stem_append (fun ending member reaches => ?_) front
  have slashless : ∀ ending ∈ moduleEndings, '/' ∉ ending := by decide
  exact slashless ending member (reaches.subset List.mem_cons_self)

theorem stem_indexEndings_behind {name : Text} (other : name ∉ indexNames) (front : Text) :
    stem indexEndings (front ++ '/' :: name) = front ++ '/' :: stem indexEndings name := by
  refine stem_append (fun ending member reaches => ?_) front
  have separated : ∀ ending ∈ indexEndings, ∀ tail ∈ ending.tails, tail.head? = some '/' → tail.tail ∈ indexNames := by
    decide +kernel
  exact other (separated ending member _ ((List.mem_tails _ _).mpr reaches) rfl)

theorem stem_indexEndings_eq_self {name : Text} :
    stem indexEndings name = name ↔ ∀ listed ∈ indexNames, ¬ listed <:+ name := by
  have named : ∀ ending ∈ indexEndings, ∃ listed ∈ indexNames, listed <:+ ending := by decide +kernel
  have nonempty : ∀ listed ∈ indexNames, listed ≠ [] := by decide
  rw [stem_eq_self]
  constructor
  · intro none listed member ends
    exact nonempty listed member (none listed (List.mem_append_left _ member) ends)
  · intro none ending member ends
    obtain ⟨listed, memberToo, inside⟩ := named ending member
    exact absurd (inside.trans ends) (none listed memberToo)

theorem slash_not_mem_stem {endings : List Text} {name : Text} (slashless : '/' ∉ name) : '/' ∉ stem endings name := by
  obtain ⟨tail, parted, -⟩ := stem_split endings name
  rw [parted, List.mem_append, not_or] at slashless
  exact slashless.1

-- Files are looked for beside a path, without its module ending. An index file is
-- looked for inside the path only when the last name does not end as an index file
-- does: any name that does is cut, and what is left names the directory.
theorem default_candidates_of_path (p : Path) (absolute : p.isAbsolute = true) (other : p.lastSegment ∉ indexNames) :
    let file := stem moduleEndings p.text
    let searched := p.ownDirectory ++ '/' :: stem indexEndings p.lastSegment
    let made := defaultRules.map (·.apply p.text)
    made = [file ++ ".js".toList, file ++ ".ts".toList, searched ++ "/index.js".toList, searched ++ "/index.ts".toList] ∧
      (∃ ending, p.text = file ++ ending ∧
        (ending ∈ moduleEndings ∨ ending = [] ∧ ∀ listed ∈ moduleEndings, ¬ listed <:+ p.text)) ∧
      (searched = p.text ↔ ∀ listed ∈ indexNames, ¬ listed <:+ p.lastSegment) ∧
      (∀ candidate ∈ made.take 2, (Path.mk candidate).ownDirectory = p.ownDirectory) ∧
      ∀ candidate ∈ made.drop 2, (Path.mk candidate).ownDirectory = searched := by
  intro file searched made
  have parted := Path.text_eq_of_isAbsolute absolute
  have index : stem indexEndings p.text = searched := by
    rw [parted, stem_indexEndings_behind other]
  have beside : file = p.ownDirectory ++ '/' :: stem moduleEndings p.lastSegment := by
    simp only [file]
    rw [parted, stem_moduleEndings_behind]
  have spelled : made = _ := apply_defaultRules p.text
  rw [index] at spelled
  refine ⟨spelled, ?_, ?_, ?_, ?_⟩
  · obtain ⟨ending, whole, listed⟩ := stem_split moduleEndings p.text
    refine ⟨ending, whole, listed.symm.imp_right fun none => ⟨none, fun listed member ends => ?_⟩⟩
    rw [none, List.append_nil] at whole
    have nonempty : ∀ listed ∈ moduleEndings, listed ≠ [] := by decide
    exact nonempty listed member (stem_eq_self.mp whole.symm listed member ends)
  · rw [← stem_indexEndings_eq_self, parted, List.append_cancel_left_eq, List.cons_inj_right]
  · have slashless : '/' ∉ stem moduleEndings p.lastSegment := slash_not_mem_stem p.slash_not_mem_lastSegment
    have within (suffix : Text) (plain : '/' ∉ suffix) : (Path.mk (file ++ suffix)).ownDirectory = p.ownDirectory := by
      rw [beside, List.append_assoc, List.cons_append]
      exact Path.ownDirectory_of_slash (by simp [slashless, plain]) _
    intro candidate member
    rw [spelled] at member
    simp only [List.take_succ_cons, List.take_zero, List.mem_cons, List.not_mem_nil, or_false] at member
    rcases member with rfl | rfl
    · exact within _ (by decide)
    · exact within _ (by decide)
  · intro candidate member
    rw [spelled] at member
    simp only [List.drop_succ_cons, List.drop_zero, List.mem_cons, List.not_mem_nil, or_false] at member
    have js : '/' ∉ "index.js".toList := by decide
    have ts : '/' ∉ "index.ts".toList := by decide
    rcases member with rfl | rfl
    · exact Path.ownDirectory_of_slash js searched
    · exact Path.ownDirectory_of_slash ts searched

theorem default_candidates_of_util :
    let p : Path := ⟨"/app/util.test".toList⟩
    p.isAbsolute = true ∧ p.lastSegment ∉ indexNames ∧ defaultRules.map (·.apply p.text) =
      ["/app/util.test.js", "/app/util.test.ts", "/app/util.test/index.js", "/app/util.test/index.ts"].map String.toList := by
  intro p
  have absolute : p.isAbsolute = true := by decide
  have other : p.lastSegment ∉ indexNames := by decide
  obtain ⟨spelled, -, -, -, -⟩ := default_candidates_of_path p absolute other
  refine ⟨absolute, other, spelled.trans ?_⟩
  decide +kernel

-- A name that merely ends in the letters loses them.
theorem index_letters_are_cut :
    let p : Path := ⟨"/app/myindex".toList⟩
    p.isAbsolute = true ∧ p.text.getLast? ≠ some '/' ∧ p.lastSegment ∉ indexNames ∧
      defaultRules.map (·.apply p.text) =
        ["/app/myindex.js", "/app/myindex.ts", "/app/my/index.js", "/app/my/index.ts"].map String.toList ∧
      (Path.mk "/app/my/index.js".toList).ownDirectory ≠ p.ownDirectory ∧
      (Path.mk "/app/my/index.js".toList).ownDirectory ≠ p.text := by
  decide +kernel

end ImportHooks.Resolve
