/-!
# Levels

Five degrees of importance of a message, from errors down to traces.
-/

namespace ComputeKernels.Logging

/-- Importance of a message. -/
inductive Level
  | error
  | warn
  | info
  | debug
  | trace
deriving DecidableEq

namespace Level

/-- Written name of a level. -/
def name : Level → String
  | error => "ERROR"
  | warn => "WARN"
  | info => "INFO"
  | debug => "DEBUG"
  | trace => "TRACE"

/-- Number of a level; more detail has a higher number. -/
def rank : Level → Nat
  | error => 1
  | warn => 2
  | info => 3
  | debug => 4
  | trace => 5

end Level

end ComputeKernels.Logging
