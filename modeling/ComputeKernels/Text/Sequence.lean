/-!
# Text of sequences

Lists of numbers appear in messages, labels and layouts in one form: `[2, 3, 4]`.
-/

namespace ComputeKernels.Text

/-- A list of numbers between brackets, separated by a comma and a blank. -/
def sequence (xs : List Nat) : String :=
  "[" ++ ", ".intercalate (xs.map toString) ++ "]"

end ComputeKernels.Text
