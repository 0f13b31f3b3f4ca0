import ImportHooks.Tsconfig.Config
import ImportHooks.Proofs.Json.Value
import ImportHooks.Proofs.Jsonc.Strict

namespace ImportHooks.Tsconfig.Config
open Text Json

def basesSaid : Value → Option Bases
  | .text entry => some (.one entry)
  | .array items => (items.mapM Value.text?).map .many
  | _ => none

def targetSaid : Value → Option Text
  | .object members => (Value.under targetKey members).getLast?.bind Value.text?
  | .array [target] => target.text?
  | _ => none

theorem basesSaid_one {value : Value} {entry : Text} : basesSaid value = some (.one entry) ↔ value = .text entry := by
  cases value <;> simp [basesSaid]

theorem basesSaid_many {value : Value} {entries : List Text} :
    basesSaid value = some (.many entries) ↔ value = .array (entries.map .text) := by
  cases value <;> simp [basesSaid, Value.texts_eq_some]

theorem targetSaid_some {value : Value} {level : Text} :
    targetSaid value = some level ↔
      (∃ members, value = .object members ∧ (Value.under targetKey members).getLast? = some (.text level)) ∨
        value = .array [.text level] := by
  cases value with
  | object members => simp [targetSaid, Option.bind_eq_some_iff, Value.text?_eq_some]
  | array items =>
    obtain _ | ⟨only, _ | ⟨second, others⟩⟩ := items <;> simp [targetSaid, Value.text?_eq_some]
  | _ => simp [targetSaid]

section
variable {room : Nat} {tree : Tree} {value : Value}

theorem basesOf_denotes (denotes : tree.Denotes room value) : basesOf tree = basesSaid value := by
  cases denotes with
  | text spelled => simp only [basesOf, basesSaid, spelled, Option.map_some]
  | array deep inside => simp only [basesOf, basesSaid, Tree.texts_value inside]
  | _ => rfl

theorem targetOf_denotes (denotes : tree.Denotes room value) : targetOf tree = targetSaid value := by
  cases denotes with
  | @array items values deep inside =>
    obtain _ | ⟨only, _ | ⟨second, others⟩⟩ := items
    · cases inside
      rfl
    · obtain ⟨first, rest, held, ended, rfl⟩ := Tree.itemValues?_cons.mp inside
      cases ended
      exact (Tree.value?_iff.mp held).text?
    · obtain ⟨first, rest, _, later, rfl⟩ := Tree.itemValues?_cons.mp inside
      obtain ⟨next, more, _, _, rfl⟩ := Tree.itemValues?_cons.mp later
      rfl
  | @object members values deep inside =>
    obtain ⟨decoded, named⟩ := Option.isSome_iff_exists.mp (Tree.memberValues?_keys inside)
    -- the last decoded member is the last one as written, and its value is held
    calc targetOf (.object members)
        = ((decoded.filter (·.1 = targetKey)).map (·.2)).getLast?.bind Tree.text? := by
          simp only [targetOf, named, List.getLast?_map, Option.bind_map, Option.bind_eq_bind, Option.bind_some,
            Function.comp_def]
      _ = (Tree.under targetKey members).getLast?.bind Tree.text? := by rw [Tree.decodeKeys?_under named]
      _ = targetSaid (.object values) := Tree.last_text (Tree.under_value inside targetKey)
  | _ => rfl

end

-- The values of the two fields. Every key decodes, and each of the two is given at most
-- once, by a value that can be held. Nothing else is asked of the other members.
structure Fields (members : List (Text × Tree)) (bases options : Option Value) : Prop where
  keys : ∀ member ∈ members, (Quoted.decode? member.1).isSome
  bases : (Tree.under extendsKey members).map (Tree.value? fieldDepth) = bases.toList.map some
  options : (Tree.under optionsKey members).map (Tree.value? fieldDepth) = options.toList.map some

def Holds (found : Option Tree) (value : Option Value) : Prop := found.map (Tree.value? fieldDepth) = value.map some

theorem holdable_iff {found : Option Tree} :
    found.all (Tree.holdable fieldDepth) = true ↔ ∃ value : Option Value, Holds found value := by
  cases found with
  | none => exact ⟨fun _ => ⟨none, rfl⟩, fun _ => rfl⟩
  | some tree =>
    rw [Option.all_some, ← Tree.value?_isSome, Option.isSome_iff_exists]
    constructor
    · rintro ⟨value, held⟩
      exact ⟨some value, congrArg some held⟩
    · rintro ⟨_ | value, held⟩
      · cases held
      · exact ⟨value, Option.some.inj held⟩

theorem Holds.bind {β : Type} {found : Option Tree} {value : Option Value} (holds : Holds found value)
    {read : Tree → Option β} {said : Value → Option β}
    (agree : ∀ {tree value}, Tree.Denotes fieldDepth tree value → read tree = said value) :
    found.bind read = value.bind said := by
  cases found <;> cases value
  · rfl
  · cases holds
  · cases holds
  · exact agree (Tree.value?_iff.mp (Option.some.inj holds))

theorem single?_holds {members decoded : List (Text × Tree)} (named : Tree.decodeKeys? members = some decoded) {key : Text}
    {value : Option Value} :
    (∃ found, Tree.single? key decoded = some found ∧ Holds found value) ↔
      (Tree.under key members).map (Tree.value? fieldDepth) = value.toList.map some := by
  simp only [Tree.single?_eq_some, Tree.decodeKeys?_under named]
  constructor
  · rintro ⟨found, given, holds⟩
    rw [given]
    cases found <;> cases value <;> simp_all [Holds]
  · intro held
    cases value with
    | none => exact ⟨none, List.map_eq_nil_iff.mp held, rfl⟩
    | some value =>
      obtain ⟨tree, given, held⟩ := List.map_eq_singleton_iff.mp held
      exact ⟨some tree, given, congrArg some held⟩

theorem ofFields?_holds {bases options : Option Tree} {first second : Option Value} (basesHeld : Holds bases first)
    (optionsHeld : Holds options second) :
    ofFields? bases options = some ⟨first.bind basesSaid, second.bind targetSaid⟩ := by
  have holdable : (bases.all (Tree.holdable fieldDepth) && options.all (Tree.holdable fieldDepth)) = true :=
    Bool.and_eq_true_iff.mpr ⟨holdable_iff.mpr ⟨first, basesHeld⟩, holdable_iff.mpr ⟨second, optionsHeld⟩⟩
  rw [ofFields?, if_pos holdable, basesHeld.bind basesOf_denotes, optionsHeld.bind targetOf_denotes]

theorem Fields.read {members : List (Text × Tree)} {bases options : Option Value} (fields : Fields members bases options) :
    ofTree? (.object members) = some ⟨bases.bind basesSaid, options.bind targetSaid⟩ := by
  have decodable : (Tree.decodeKeys? members).isSome := by
    rw [Tree.decodeKeys?_isSome, List.all_eq_true]
    exact fields.keys
  obtain ⟨decoded, named⟩ := Option.isSome_iff_exists.mp decodable
  obtain ⟨first, firstFound, basesHeld⟩ := (single?_holds named).mpr fields.bases
  obtain ⟨second, secondFound, optionsHeld⟩ := (single?_holds named).mpr fields.options
  simp only [ofTree?, named, firstFound, secondFound, Option.bind_eq_bind, Option.bind_some]
  exact ofFields?_holds basesHeld optionsHeld

theorem Fields.of_read {members : List (Text × Tree)} {config : Config} (read : ofTree? (.object members) = some config) :
    ∃ bases options, Fields members bases options := by
  simp only [ofTree?, Option.bind_eq_bind, Option.bind_eq_some_iff] at read
  obtain ⟨decoded, named, first, firstFound, second, secondFound, read⟩ := read
  rw [ofFields?, Option.ite_none_right_eq_some, Bool.and_eq_true] at read
  obtain ⟨bases, basesHeld⟩ := holdable_iff.mp read.1.1
  obtain ⟨options, optionsHeld⟩ := holdable_iff.mp read.1.2
  have keys : (Tree.decodeKeys? members).isSome := Option.isSome_of_eq_some named
  rw [Tree.decodeKeys?_isSome, List.all_eq_true] at keys
  exact ⟨bases, options, keys, (single?_holds named).mp ⟨first, firstFound, basesHeld⟩,
    (single?_holds named).mp ⟨second, secondFound, optionsHeld⟩⟩

theorem parse?_written {tree : Tree} {text : Text} (written : tree.Written text) : parse? text = ofTree? tree := by
  rw [parse?, Jsonc.strip_written written, Tree.read?_iff.mpr written, Option.bind_some]

-- A value of any other shape leaves its field absent.
theorem fields_read_by_type {members : List (Text × Tree)} {text : Text} (written : (Tree.object members).Written text)
    {config : Config} (accepted : parse? text = some config) :
    ∃ bases options, Fields members bases options ∧
      (∀ entry, config.bases = some (.one entry) ↔ bases = some (.text entry)) ∧
      (∀ entries, config.bases = some (.many entries) ↔ bases = some (.array (entries.map .text))) ∧
      ∀ level, config.target = some level ↔
        (∃ inside, options = some (.object inside) ∧ (Value.under targetKey inside).getLast? = some (.text level)) ∨
          options = some (.array [.text level]) := by
  rw [parse?_written written] at accepted
  obtain ⟨bases, options, fields⟩ := Fields.of_read accepted
  cases Option.some.inj (fields.read.symm.trans accepted)
  refine ⟨bases, options, fields, fun entry => ?_, fun entries => ?_, fun level => ?_⟩
  · simp [Option.bind_eq_some_iff, basesSaid_one]
  · simp [Option.bind_eq_some_iff, basesSaid_many]
  · simp only [Option.bind_eq_some_iff, targetSaid_some]
    cases options <;> simp

-- The text is `{"extends":["./a","\u0062"],"compilerOptions":{"target":1,"target":"es5"}}`.
theorem list_and_last_target_are_read :
    let members : List (Text × Tree) :=
      [("extends".toList, .array [.text "./a".toList, .text "\\u0062".toList]),
        ("compilerOptions".toList, .object [("target".toList, .number "1".toList), ("target".toList, .text "es5".toList)])]
    let text : Text := "\x7b\"extends\":[\"./a\",\"\\u0062\"],\"compilerOptions\":\x7b\"target\":1,\"target\":\"es5\"\x7d\x7d".toList
    let config : Config := ⟨some (.many ["./a".toList, "b".toList]), some "es5".toList⟩
    (Tree.object members).Written text ∧ parse? text = some config ∧ ∃ bases options, Fields members bases options ∧
      bases = some (.array [.text "./a".toList, .text "b".toList]) ∧
      ((∃ inside, options = some (.object inside) ∧
          (Value.under targetKey inside).getLast? = some (.text "es5".toList)) ∨
        options = some (.array [.text "es5".toList])) := by
  intro members text config
  have written : (Tree.object members).Written text := Tree.written_of_tokens (by decide +kernel)
  have accepted : parse? text = some config := by decide +kernel
  obtain ⟨bases, options, fields, _, many, target⟩ := fields_read_by_type written accepted
  exact ⟨written, accepted, bases, options, fields, (many _).mp rfl, (target _).mp rfl⟩

theorem list_of_options_is_read :
    let text : Text := "\x7b\"compilerOptions\":[\"es2020\"]\x7d".toList
    (Tree.object [("compilerOptions".toList, .array [.text "es2020".toList])]).Written text ∧
      parse? text = some ⟨none, some "es2020".toList⟩ := by
  exact ⟨Tree.written_of_tokens (by decide +kernel), by decide +kernel⟩

theorem fields_read_apart {members : List (Text × Tree)} {text : Text} (written : (Tree.object members).Written text)
    {bases options : Option Value} (fields : Fields members bases options) :
    parse? text = some ⟨bases.bind basesSaid, options.bind targetSaid⟩ ∧
      ∀ {others : List (Text × Tree)} {other : Text} {otherBases otherOptions : Option Value},
        (Tree.object others).Written other → Fields others otherBases otherOptions →
        (otherBases = bases → (parse? other).map Config.bases = (parse? text).map Config.bases) ∧
          (otherOptions = options → (parse? other).map Config.target = (parse? text).map Config.target) := by
  have read : parse? text = some ⟨bases.bind basesSaid, options.bind targetSaid⟩ :=
    (parse?_written written).trans fields.read
  refine ⟨read, fun otherWritten otherFields => ?_⟩
  rw [read, (parse?_written otherWritten).trans otherFields.read]
  exact ⟨fun same => same ▸ rfl, fun same => same ▸ rfl⟩

-- The first text is `{"\u0065xtends":false,"x":[1e999],"compilerOptions":{"target":"es5"}}`,
-- the second one `{"compilerOptions":{"target":"es5"},"extends":"a"}`.
theorem mistyped_bases_leave_the_target :
    let options : Value := .object [("target".toList, .text "es5".toList)]
    let given : Tree := .object [("target".toList, .text "es5".toList)]
    let members : List (Text × Tree) :=
      [("\\u0065xtends".toList, .bool false), ("x".toList, .array [.number "1e999".toList]), ("compilerOptions".toList, given)]
    let others : List (Text × Tree) := [("compilerOptions".toList, given), ("extends".toList, .text ['a'])]
    let text : Text := "\x7b\"\\u0065xtends\":false,\"x\":[1e999],\"compilerOptions\":\x7b\"target\":\"es5\"\x7d\x7d".toList
    let other : Text := "\x7b\"compilerOptions\":\x7b\"target\":\"es5\"\x7d,\"extends\":\"a\"\x7d".toList
    (Tree.object members).Written text ∧ Fields members (some (.bool false)) (some options) ∧
      parse? text = some ⟨none, some "es5".toList⟩ ∧ (Tree.object others).Written other ∧
      Fields others (some (.text ['a'])) (some options) ∧ (parse? other).map Config.target = (parse? text).map Config.target := by
  intro options given members others text other
  have bases : Quoted.decode? "\\u0065xtends".toList = some extendsKey := by decide +kernel
  have plain : Quoted.decode? "extends".toList = some extendsKey := by decide +kernel
  have unknown : Quoted.decode? "x".toList = some "x".toList := by decide +kernel
  have settings : Quoted.decode? "compilerOptions".toList = some optionsKey := by decide +kernel
  have apart : extendsKey ≠ optionsKey := by decide +kernel
  have strange : "x".toList ≠ extendsKey ∧ "x".toList ≠ optionsKey := by decide +kernel
  have held : given.value? fieldDepth = some options := by
    have key : Quoted.decode? "target".toList = some "target".toList := by decide +kernel
    have level : Quoted.decode? "es5".toList = some "es5".toList := by decide +kernel
    exact Tree.value?_iff.mpr (.object (by decide)
      (Tree.memberValues?_cons.mpr ⟨_, _, [], key, Tree.value?_iff.mpr (.text level), rfl, rfl⟩))
  have written : (Tree.object members).Written text := Tree.written_of_tokens (by decide +kernel)
  have otherWritten : (Tree.object others).Written other := Tree.written_of_tokens (by decide +kernel)
  have fields : Fields members (some (.bool false)) (some options) := by
    refine ⟨by decide +kernel, ?_, ?_⟩
    · rw [Tree.under_same bases, Tree.under_other unknown strange.1, Tree.under_other settings apart.symm]
      rfl
    · rw [Tree.under_other bases apart, Tree.under_other unknown strange.2, Tree.under_same settings]
      exact congrArg (fun value => [value]) held
  have otherFields : Fields others (some (.text ['a'])) (some options) := by
    refine ⟨by decide +kernel, ?_, ?_⟩
    · rw [Tree.under_other settings apart.symm, Tree.under_same plain]
      rfl
    · rw [Tree.under_same settings, Tree.under_other plain apart]
      exact congrArg (fun value => [value]) held
  obtain ⟨read, alike⟩ := fields_read_apart written fields
  exact ⟨written, fields, read.trans (by decide +kernel), otherWritten, otherFields,
    (alike otherWritten otherFields).2 rfl⟩

end ImportHooks.Tsconfig.Config
