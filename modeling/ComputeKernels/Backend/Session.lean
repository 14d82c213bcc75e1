import ComputeKernels.Backend.Dispatch
import ComputeKernels.Backend.Readback

/-!
# Sessions

A session is a sequence of operations on one backend.  Each ends with an answer or a failure and
leaves the backend ready for the next.
-/

namespace ComputeKernels.Backend

open Tensor

/-! ## Operations -/

/-- Operations on a backend. -/
inductive Operation
  | write (values : Values) (shape : Shape)
  | make (shape : Shape) (element : ElementType) (values : Option Values)
  | complex (real imag : Handle)
  | retain (id : TensorId)
  | drop (id : TensorId) (force : Bool)
  | run (job : Job)
  | submit
  | read (id : TensorId) (fault : Option Device.MapFault)

/-- Answers to operations. -/
inductive Answer
  | tensor (handle : Handle)
  | count (references : Nat)
  | gone (flag : Bool)
  | values (values : Values)
  | done
deriving DecidableEq

/-- Carries out an operation. -/
def perform : Operation → Action Answer
  | .write values shape => Answer.tensor <$> write values shape
  | .make shape element values => Answer.tensor <$> make shape element values
  | .complex real imag => Answer.tensor <$> complex real imag
  | .retain id => Answer.count <$> retain id
  | .drop id force => Answer.gone <$> drop id force
  | .run job => Answer.tensor <$> run job
  | .submit => do
    submit
    return .done
  | .read id fault => Answer.values <$> read id fault

/-! ## Sequences -/

/-- Answer to an operation, with the backend after it. -/
def step (b : Backend) (op : Operation) : Except KernelError Answer × Backend := perform op b

/-- The backend after a sequence of operations. -/
def after (b : Backend) (ops : List Operation) : Backend := ops.foldl (fun b op => (b.step op).2) b

end ComputeKernels.Backend
