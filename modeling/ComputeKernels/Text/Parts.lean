/-!
# Parts of a text

Cutting a list of characters at a separator.  There is always one part more than there are
separators.
-/

namespace ComputeKernels.Text

/-- Parts of a list of characters between separators. -/
def parts (separator : Char) : List Char → List (List Char)
  | [] => [[]]
  | c :: cs =>
    if c = separator then [] :: parts separator cs
    else
      match parts separator cs with
      | [] => [[c]]
      | part :: rest => (c :: part) :: rest

/-- There is always a part. -/
theorem parts_ne_nil (separator : Char) (cs : List Char) : parts separator cs ≠ [] := by
  cases cs with
  | nil => simp [parts]
  | cons c cs =>
    unfold parts
    split
    · simp
    · split <;> simp

end ComputeKernels.Text
