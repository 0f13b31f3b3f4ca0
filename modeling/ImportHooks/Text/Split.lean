import ImportHooks.Text.Utf8

namespace ImportHooks.Text

def split (separator : Char) : Text → List Text
  | [] => [[]]
  | c :: rest =>
    if c = separator then [] :: split separator rest
    else match split separator rest with
      | [] => [[c]]
      | part :: parts => (c :: part) :: parts

def join (separator : Char) : List Text → Text
  | [] => []
  | [part] => part
  | part :: parts => part ++ separator :: join separator parts

theorem split_ne_nil (separator : Char) (text : Text) : split separator text ≠ [] := by
  cases text with
  | nil => simp [split]
  | cons c rest =>
    unfold split
    split
    · simp
    · cases split separator rest <;> simp

theorem join_split (separator : Char) (text : Text) : join separator (split separator text) = text := by
  induction text with
  | nil => rfl
  | cons c rest ih =>
    have found := split_ne_nil separator rest
    unfold split
    split
    · rename_i same
      cases parts : split separator rest with
      | nil => exact absurd parts found
      | cons part others => rw [parts] at ih; simp [join, ih, same]
    · cases parts : split separator rest with
      | nil => exact absurd parts found
      | cons part others =>
        rw [parts] at ih
        cases others <;> simp_all [join]

end ImportHooks.Text
