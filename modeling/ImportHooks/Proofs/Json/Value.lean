import ImportHooks.Json.Tree
import ImportHooks.Proofs.Text.Parts

namespace ImportHooks.Json
open Text

-- Members keep their order and duplicates. A number stays as written.
inductive Value where
  | null | bool (value : Bool) | number (raw : Text) | text (said : Text)
  | array (items : List Value) | object (members : List (Text × Value))

namespace Value

def text? : Value → Option Text
  | .text said => some said
  | _ => none

theorem text?_eq_some {value : Value} {said : Text} : value.text? = some said ↔ value = .text said := by
  cases value <;> simp [text?]

theorem texts_eq_some {values : List Value} {list : List Text} :
    values.mapM text? = some list ↔ values = list.map .text := by
  rw [mapM_eq_some]
  constructor
  · intro texts
    induction values generalizing list with
    | nil => simpa using texts
    | cons value values ih =>
      obtain _ | ⟨said, list⟩ := list
      · cases texts
      · obtain ⟨first, others⟩ := List.cons.inj texts
        rw [text?_eq_some.mp first, ih others, List.map_cons]
  · rintro rfl
    simp only [List.map_map, Function.comp_def, text?]

def under (key : Text) (members : List (Text × Value)) : List Value := (members.filter (·.1 = key)).map (·.2)

end Value

namespace Tree

mutual
def value? (room : Nat) : Tree → Option Value
  | .null => some .null
  | .bool b => some (.bool b)
  | .number raw => if Number.inRange raw then some (.number raw) else none
  | .text raw => (Quoted.decode? raw).map .text
  | .array items => if 0 < room then (itemValues? (room - 1) items).map .array else none
  | .object members => if 0 < room then (memberValues? (room - 1) members).map .object else none
def itemValues? (room : Nat) : List Tree → Option (List Value)
  | [] => some []
  | item :: rest => do
    let value ← value? room item
    (itemValues? room rest).map (value :: ·)
def memberValues? (room : Nat) : List (Text × Tree) → Option (List (Text × Value))
  | [] => some []
  | (key, tree) :: rest => do
    let said ← Quoted.decode? key
    let value ← value? room tree
    (memberValues? room rest).map ((said, value) :: ·)
end

mutual
theorem value?_isSome (room : Nat) (tree : Tree) : (tree.value? room).isSome = tree.holdable room := by
  cases tree with
  | null | bool => rfl
  | number raw => by_cases fits : Number.inRange raw = true <;> simp [value?, holdable, fits]
  | text raw => simp only [value?, holdable, Option.isSome_map]
  | array items => by_cases deep : 0 < room <;> simp [value?, holdable, deep, itemValues?_isSome (room - 1) items]
  | object members =>
    by_cases deep : 0 < room <;> simp [value?, holdable, deep, memberValues?_isSome (room - 1) members]
theorem itemValues?_isSome (room : Nat) (items : List Tree) :
    (itemValues? room items).isSome = holdableItems room items := by
  cases items with
  | nil => rfl
  | cons item rest =>
    rw [holdableItems, ← value?_isSome room item, ← itemValues?_isSome room rest, itemValues?]
    cases value? room item <;> simp
theorem memberValues?_isSome (room : Nat) (members : List (Text × Tree)) :
    (memberValues? room members).isSome = holdableMembers room members := by
  cases members with
  | nil => rfl
  | cons member rest =>
    obtain ⟨key, tree⟩ := member
    rw [holdableMembers, ← value?_isSome room tree, ← memberValues?_isSome room rest, memberValues?]
    cases Quoted.decode? key <;> cases value? room tree <;> simp
end

inductive Denotes (room : Nat) : Tree → Value → Prop where
  | null : Denotes room .null .null
  | bool (b : Bool) : Denotes room (.bool b) (.bool b)
  | number {raw} (fits : Number.inRange raw = true) : Denotes room (.number raw) (.number raw)
  | text {raw said} (spelled : Quoted.decode? raw = some said) : Denotes room (.text raw) (.text said)
  | array {items values} (deep : 0 < room) (inside : itemValues? (room - 1) items = some values) :
      Denotes room (.array items) (.array values)
  | object {members values} (deep : 0 < room) (inside : memberValues? (room - 1) members = some values) :
      Denotes room (.object members) (.object values)

theorem value?_iff {room : Nat} {tree : Tree} {value : Value} : tree.value? room = some value ↔ Denotes room tree value := by
  constructor
  · intro held
    cases tree with
    | null =>
      cases held
      exact .null
    | bool b =>
      cases held
      exact .bool b
    | number raw =>
      rw [value?, Option.ite_none_right_eq_some] at held
      cases held.2
      exact .number held.1
    | text raw =>
      obtain ⟨said, spelled, rfl⟩ := Option.map_eq_some_iff.mp held
      exact .text spelled
    | array items =>
      rw [value?, Option.ite_none_right_eq_some, Option.map_eq_some_iff] at held
      obtain ⟨deep, values, inside, rfl⟩ := held
      exact .array deep inside
    | object members =>
      rw [value?, Option.ite_none_right_eq_some, Option.map_eq_some_iff] at held
      obtain ⟨deep, values, inside, rfl⟩ := held
      exact .object deep inside
  · intro denotes
    cases denotes <;> simp [value?, *]

theorem Denotes.text? {room : Nat} {tree : Tree} {value : Value} (denotes : Denotes room tree value) :
    tree.text? = value.text? := by
  cases denotes with
  | text spelled => exact spelled
  | _ => rfl

theorem last_text {room : Nat} {trees : List Tree} {values : List Value}
    (held : trees.map (value? room) = values.map some) : trees.getLast?.bind text? = values.getLast?.bind Value.text? := by
  have last : trees.getLast?.map (value? room) = values.getLast?.map some := by
    rw [← List.getLast?_map, ← List.getLast?_map, held]
  cases final : trees.getLast? with
  | none => cases ending : values.getLast? <;> simp_all
  | some tree =>
    cases ending : values.getLast? with
    | none => simp [final, ending] at last
    | some value => exact (value?_iff.mp (by simpa [final, ending] using last)).text?

theorem itemValues?_cons {room : Nat} {item : Tree} {rest : List Tree} {values : List Value} :
    itemValues? room (item :: rest) = some values ↔
      ∃ value others, item.value? room = some value ∧ itemValues? room rest = some others ∧ value :: others = values := by
  simp [itemValues?, Option.bind_eq_some_iff]

theorem memberValues?_cons {room : Nat} {key : Text} {tree : Tree} {rest : List (Text × Tree)} {values : List (Text × Value)} :
    memberValues? room ((key, tree) :: rest) = some values ↔ ∃ said value others, Quoted.decode? key = some said ∧
      tree.value? room = some value ∧ memberValues? room rest = some others ∧ (said, value) :: others = values := by
  simp [memberValues?, Option.bind_eq_some_iff]

theorem texts_value {room : Nat} {items : List Tree} {values : List Value} (held : itemValues? room items = some values) :
    items.mapM text? = values.mapM Value.text? := by
  induction items generalizing values with
  | nil =>
    cases held
    rfl
  | cons item rest ih =>
    obtain ⟨value, others, first, later, rfl⟩ := itemValues?_cons.mp held
    rw [List.mapM_cons, List.mapM_cons, (value?_iff.mp first).text?, ih later]

-- Every value under a key, however the key is spelled.
def under (key : Text) (members : List (Text × Tree)) : List Tree :=
  (members.filter fun member => Quoted.decode? member.1 = some key).map (·.2)

section Under
variable {key name : Text} {tree : Tree} {rest : List (Text × Tree)}

theorem under_same (spelled : Quoted.decode? key = some name) : under name ((key, tree) :: rest) = tree :: under name rest := by
  simp [under, spelled]

theorem under_other {said : Text} (spelled : Quoted.decode? key = some said) (other : said ≠ name) :
    under name ((key, tree) :: rest) = under name rest := by
  simp [under, spelled, other]

end Under

theorem under_value {room : Nat} {members : List (Text × Tree)} {values : List (Text × Value)}
    (held : memberValues? room members = some values) (name : Text) :
    (under name members).map (value? room) = (Value.under name values).map some := by
  induction members generalizing values with
  | nil =>
    cases held
    rfl
  | cons member rest ih =>
    obtain ⟨said, value, others, spelled, first, later, rfl⟩ := memberValues?_cons.mp held
    by_cases same : said = name
    · rw [under_same (same ▸ spelled), List.map_cons, ih later, first]
      simp [Value.under, same]
    · rw [under_other spelled same, ih later]
      simp [Value.under, same]

theorem decodeKeys?_isSome {members : List (Text × Tree)} :
    (decodeKeys? members).isSome = members.all fun member => (Quoted.decode? member.1).isSome := by
  simp only [decodeKeys?, mapM_isSome, Option.isSome_map]

theorem memberValues?_keys {room : Nat} {members : List (Text × Tree)} {values : List (Text × Value)}
    (held : memberValues? room members = some values) : (decodeKeys? members).isSome := by
  rw [decodeKeys?_isSome]
  induction members generalizing values with
  | nil => rfl
  | cons member rest ih =>
    obtain ⟨said, value, others, decoded, _, later, rfl⟩ := memberValues?_cons.mp held
    rw [List.all_cons, decoded, ih later, Option.isSome_some, Bool.and_true]

theorem decodeKeys?_under {members decoded : List (Text × Tree)} (named : decodeKeys? members = some decoded) (name : Text) :
    (decoded.filter (·.1 = name)).map (·.2) = under name members := by
  rw [decodeKeys?, mapM_eq_some] at named
  induction members generalizing decoded with
  | nil =>
    cases List.map_eq_nil_iff.mp named.symm
    rfl
  | cons member rest ih =>
    obtain _ | ⟨head, others⟩ := decoded
    · cases named
    · obtain ⟨first, later⟩ := List.cons.inj named
      obtain ⟨said, spelled, rfl⟩ := Option.map_eq_some_iff.mp first
      by_cases same : said = name
      · rw [under_same (same ▸ spelled), ← ih later]
        simp [same]
      · rw [under_other spelled same, ← ih later]
        simp [same]

theorem single?_eq_some {members : List (Text × Tree)} {key : Text} {found : Option Tree} :
    single? key members = some found ↔ (members.filter (·.1 = key)).map (·.2) = found.toList := by
  unfold single?
  generalize members.filter (·.1 = key) = matching
  obtain _ | ⟨first, _ | ⟨second, others⟩⟩ := matching <;> cases found <;> simp

end Tree
end ImportHooks.Json
