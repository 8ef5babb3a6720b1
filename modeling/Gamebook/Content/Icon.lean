/-! # Icons

A name in square brackets stands for a small picture. Names are made of ASCII letters, digits and
underscores, so that brackets around anything else stay as they are.
-/

namespace Gamebook.Content

/-- The characters that the name of an icon is made of. -/
def isIconChar (c : Char) : Bool :=
  c.isAlphanum || c == '_'

/-- The picture for an icon. -/
def iconImage (name : List Char) : List Char :=
  "<img class=\"inline_icon\" src=\"images/".toList ++ name ++ "_small.svg\">".toList

/-- The icon name that a text begins with up to its closing bracket, with what follows it. -/
def iconName? (text : List Char) : Option (List Char × List Char) :=
  let name := text.takeWhile isIconChar
  match text.dropWhile isIconChar with
  | ']' :: after => if name.isEmpty then none else some (name, after)
  | _ => none

theorem length_of_iconName? {text name after : List Char}
    (h : iconName? text = some (name, after)) : after.length < text.length := by
  unfold iconName? at h
  dsimp only at h
  split at h
  · next rest hrest =>
    split at h
    · cases h
    · cases h
      have := (List.dropWhile_sublist isIconChar (l := text)).length_le
      rw [hrest, List.length_cons] at this
      omega
  · cases h

/-- The text with a picture for every name in square brackets. -/
def withIcons : List Char → List Char
  | [] => []
  | c :: rest =>
    if c = '[' then
      match _h : iconName? rest with
      | some (name, after) => iconImage name ++ withIcons after
      | none => c :: withIcons rest
    else c :: withIcons rest
termination_by text => text.length
decreasing_by
  · exact Nat.lt_succ_of_lt (length_of_iconName? _h)
  · simp
  · simp

end Gamebook.Content
