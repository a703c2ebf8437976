/-!
# Scalar types

The eleven scalar types a variable may hold without further description: each has a short spelling,
the spelling that device code uses, and a size in bytes.
-/

namespace DeviceSlots

/-- A scalar type known to host and device. -/
inductive Scalar
  | float32 | float64 | int8 | uint8 | int16 | uint16 | int32 | uint32 | int64 | uint64 | bool
  deriving DecidableEq

namespace Scalar

/-- All scalar types. -/
def all : List Scalar :=
  [.float32, .float64, .int8, .uint8, .int16, .uint16, .int32, .uint32, .int64, .uint64, .bool]

/-- The short spelling, which names the width in bits. -/
def shortName : Scalar → String
  | .float32 => "f32"
  | .float64 => "f64"
  | .int8 => "i8"
  | .uint8 => "u8"
  | .int16 => "i16"
  | .uint16 => "u16"
  | .int32 => "i32"
  | .uint32 => "u32"
  | .int64 => "i64"
  | .uint64 => "u64"
  | .bool => "bool"

/-- The spelling of the same type in device code. -/
def deviceName : Scalar → String
  | .float32 => "float"
  | .float64 => "double"
  | .int8 => "signed char"
  | .uint8 => "unsigned char"
  | .int16 => "short"
  | .uint16 => "unsigned short"
  | .int32 => "int"
  | .uint32 => "unsigned int"
  | .int64 => "long long int"
  | .uint64 => "unsigned long long int"
  | .bool => "bool"

/-- The size of a value in bytes. -/
def byteSize : Scalar → Nat
  | .bool | .int8 | .uint8 => 1
  | .int16 | .uint16 => 2
  | .float32 | .int32 | .uint32 => 4
  | .float64 | .int64 | .uint64 => 8

/-- The scalar type with the given short spelling. -/
def ofShortName? (name : String) : Option Scalar := all.find? fun s => s.shortName = name

theorem mem_all (s : Scalar) : s ∈ all := by cases s <;> decide

@[simp] theorem ofShortName?_shortName (s : Scalar) : ofShortName? s.shortName = some s := by
  cases s <;> rfl

end Scalar

end DeviceSlots
