import Mathlib.Algebra.Order.Field.Rat
import Mathlib.Tactic.Positivity

/-!
# Devices and types of tensors

What a program reads of a tensor beside its entries.
-/

namespace Tensors

inductive Device
  | cpu
  | cuda (index : ℕ)
deriving DecidableEq

/-- The type of the entries. -/
inductive Dtype
  | float16
  | bfloat16
  | float32
  | float64
  | int8
  | int16
  | int32
  | int64
  | uint8
  | bool
deriving DecidableEq

def Dtype.isFloatingPoint : Dtype → Bool
  | .float16 | .bfloat16 | .float32 | .float64 => true
  | _ => false

/-- `torch.finfo(dtype).eps` of a floating type. -/
def Dtype.eps : Dtype → ℚ
  | .float16 => 1 / 2 ^ 10
  | .bfloat16 => 1 / 2 ^ 7
  | .float64 => 1 / 2 ^ 52
  | _ => 1 / 2 ^ 23

/-- `torch.finfo(dtype).tiny` of a floating type, the smallest normal number. -/
def Dtype.tiny : Dtype → ℚ
  | .float16 => 1 / 2 ^ 14
  | .float64 => 1 / 2 ^ 1022
  | _ => 1 / 2 ^ 126

/-- The type of an operation on two tensors of floating types. -/
def Dtype.promote (a b : Dtype) : Dtype :=
  if a = b then a else if a = .float64 ∨ b = .float64 then .float64 else .float32

theorem Dtype.tiny_pos (dtype : Dtype) : 0 < dtype.tiny := by
  cases dtype <;> simp only [Dtype.tiny] <;> positivity

theorem Dtype.eps_pos (dtype : Dtype) : 0 < dtype.eps := by
  cases dtype <;> simp only [Dtype.eps] <;> positivity

end Tensors
