import ImportHooks.Load.Kind

namespace ImportHooks.Load.Kind

theorem not_suffix_of_apart {a b text : Text} (apart : ¬ a <:+ b ∧ ¬ b <:+ a) (ends : a <:+ text) : ¬ b <:+ text := by
  intro also
  rcases Nat.le_total a.length b.length with shorter | longer
  · exact apart.1 (List.suffix_of_suffix_length_le ends also shorter)
  · exact apart.2 (List.suffix_of_suffix_length_le also ends longer)

def HasTypedEnding (url : Text) : Prop := ∃ ending ∈ [".ts", ".tsx", ".mts", ".cts"], ending.toList <:+ url

theorem isTyped_iff (url : Text) : isTyped url = true ↔ HasTypedEnding url := by
  simp [isTyped, typedEndings, HasTypedEnding]

theorem untyped_of_suffix {url ending : Text} (ends : ending <:+ url)
    (apart : ∀ typed ∈ [".ts", ".tsx", ".mts", ".cts"], ¬ ending <:+ typed.toList ∧ ¬ typed.toList <:+ ending) :
    isTyped url = false := by
  rw [Bool.eq_false_iff, ne_eq, isTyped_iff]
  rintro ⟨typed, member, also⟩
  exact not_suffix_of_apart (apart typed member) ends also

theorem ofUrl_typescript {url : Text} (typed : HasTypedEnding url) : ofUrl url = .typescript := by
  rw [ofUrl, if_pos ((isTyped_iff url).mpr typed)]

theorem ofUrl_stylesheet {url : Text} (ends : ".css".toList <:+ url) : ofUrl url = .stylesheet := by
  have untyped := untyped_of_suffix ends (by decide +kernel)
  have styled : stylesheetEnding.isSuffixOf url = true := List.isSuffixOf_iff_suffix.mpr ends
  simp only [ofUrl, untyped, styled, Bool.false_eq_true, if_false, if_true]

theorem ofUrl_json {url : Text} (ends : ".json".toList <:+ url) : ofUrl url = .json := by
  have untyped := untyped_of_suffix ends (by decide +kernel)
  have unstyled : stylesheetEnding.isSuffixOf url = false := by
    rw [Bool.eq_false_iff, ne_eq, List.isSuffixOf_iff_suffix]
    exact not_suffix_of_apart (by decide +kernel) ends
  have named : jsonEnding.isSuffixOf url = true := List.isSuffixOf_iff_suffix.mpr ends
  simp only [ofUrl, untyped, unstyled, named, Bool.false_eq_true, if_false, if_true]

theorem ofUrl_other {url : Text} (untyped : ¬ HasTypedEnding url) (unstyled : ¬ ".css".toList <:+ url)
    (unnamed : ¬ ".json".toList <:+ url) : ofUrl url = .other := by
  have noStyle : ¬ stylesheetEnding.isSuffixOf url = true := by rwa [List.isSuffixOf_iff_suffix]
  have noJson : ¬ jsonEnding.isSuffixOf url = true := by rwa [List.isSuffixOf_iff_suffix]
  rw [ofUrl, if_neg (by rwa [isTyped_iff]), if_neg noStyle, if_neg noJson]

end ImportHooks.Load.Kind
