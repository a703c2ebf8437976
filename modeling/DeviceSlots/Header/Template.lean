import DeviceSlots.Header.Point

/-!
# The header template

The text around the generated parts, line by line: name comparison on the device, then the
signatures of all accessors, each followed by the open place for its body. Every fill point of
`FillPoint.all` occurs exactly once.
-/

namespace DeviceSlots

/-- A part of the header: fixed lines, or the open place of a fill point. -/
inductive Segment
  | fixed (lines : List String)
  | fill (point : FillPoint)
  deriving DecidableEq

namespace Template

/-- The start of the header up to the declaration of the buffer. -/
def opening : List String := [
  "// Generated by curvegen. Do not edit.",
  "#ifndef CURVE_RTC_DYNAMIC_H_",
  "#define CURVE_RTC_DYNAMIC_H_",
  "",
  "namespace curve_rtc \x7b",
  "",
  "template <unsigned int N, unsigned int I> struct NameCompare \x7b",
  "    __device__ __forceinline__ static bool equal(const char(&a)[N], const char(&b)[N]) \x7b",
  "        return a[N - I] == b[N - I] && NameCompare<N, I - 1>::equal(a, b);",
  "    \x7d",
  "\x7d;",
  "",
  "template <unsigned int N> struct NameCompare<N, 1> \x7b",
  "    __device__ __forceinline__ static bool equal(const char(&a)[N], const char(&b)[N]) \x7b",
  "        return a[N - 1] == b[N - 1];",
  "    \x7d",
  "\x7d;",
  "",
  "template <unsigned int N>",
  "__device__ __forceinline__ bool names_equal(const char(&a)[N], const char(&b)[N]) \x7b",
  "    return NameCompare<N, N>::equal(a, b);",
  "\x7d",
  "",
  "template <unsigned int N, unsigned int M>",
  "__device__ __forceinline__ bool names_equal(const char(&)[N], const char(&)[M]) \x7b",
  "    return false;",
  "\x7d",
  "",
  "// Environment bytes, then one pointer slot per variable:",
  "// agent, message output, message input, new agent."]

/-- The line that ends an accessor. -/
def close : String := "    \x7d"

/-- The template parameters of a scalar accessor. -/
def scalarParameters : String := "    template <typename T, unsigned int M>"

/-- The template parameters of an array accessor. -/
def arrayParameters : String := "    template <typename T, unsigned int N, unsigned int M>"

/-- The signature of an accessor that returns a value. -/
def getter (function parameters : String) : String :=
  "    __device__ __forceinline__ static T " ++ function ++ "(const char(&name)[M], " ++
    parameters ++ ") \x7b"

/-- The signature of an accessor that takes a value. -/
def setter (function parameters : String) : String :=
  "    __device__ __forceinline__ static void " ++ function ++ "(const char(&name)[M], T value, " ++
    parameters ++ ") \x7b"

/-- The parameters that say which element of a scalar variable is meant. -/
def scalarIndex : String := "unsigned int index"

/-- The parameters that say which element of an array variable is meant. -/
def arrayIndex : String := "unsigned int index, unsigned int array_index"

/-- The whole header, in order. -/
def segments : List Segment := [
  .fixed opening,
  .fill .declaration,
  .fixed ["", "struct Curve \x7b", scalarParameters, getter "getAgentVariable" scalarIndex],
  .fill (.accessor .agent .get),
  .fixed [close, "", scalarParameters, getter "getMessageVariable" scalarIndex],
  .fill (.accessor .messageIn .get),
  .fixed [close, "", scalarParameters, getter "getAgentVariable_ldg" scalarIndex],
  .fill (.accessor .agent .getCached),
  .fixed [close, "", scalarParameters, getter "getMessageVariable_ldg" scalarIndex],
  .fill (.accessor .messageIn .getCached),
  .fixed [close, "", arrayParameters, getter "getAgentArrayVariable" arrayIndex],
  .fill (.accessor .agent .getArray),
  .fixed [close, "", arrayParameters, getter "getMessageArrayVariable" arrayIndex],
  .fill (.accessor .messageIn .getArray),
  .fixed [close, "", arrayParameters, getter "getAgentArrayVariable_ldg" arrayIndex],
  .fill (.accessor .agent .getArrayCached),
  .fixed [close, "", arrayParameters, getter "getMessageArrayVariable_ldg" arrayIndex],
  .fill (.accessor .messageIn .getArrayCached),
  .fixed [close, "", scalarParameters, setter "setAgentVariable" scalarIndex],
  .fill (.accessor .agent .set),
  .fixed [close, "", scalarParameters, setter "setMessageVariable" scalarIndex],
  .fill (.accessor .messageOut .set),
  .fixed [close, "", scalarParameters, setter "setNewAgentVariable" scalarIndex],
  .fill (.accessor .newAgent .set),
  .fixed [close, "", arrayParameters, setter "setAgentArrayVariable" arrayIndex],
  .fill (.accessor .agent .setArray),
  .fixed [close, "", arrayParameters, setter "setMessageArrayVariable" arrayIndex],
  .fill (.accessor .messageOut .setArray),
  .fixed [close, "", arrayParameters, setter "setNewAgentArrayVariable" arrayIndex],
  .fill (.accessor .newAgent .setArray),
  .fixed [close, "\x7d;", "", "namespace environment \x7b", "",
    "template <typename T, unsigned int M>",
    "__device__ __forceinline__ T getProperty(const char(&name)[M]) \x7b"],
  .fill (.environment .get),
  .fixed ["\x7d", "", "template <typename T, unsigned int M>",
    "__device__ __forceinline__ T getProperty(const char(&name)[M], unsigned int index) \x7b"],
  .fill (.environment .getArray),
  .fixed ["\x7d", "", "template <unsigned int M>",
    "__device__ __forceinline__ bool containsProperty(const char(&name)[M]) \x7b"],
  .fill (.environment .contains),
  .fixed ["\x7d", "", "\x7d  // namespace environment", "\x7d  // namespace curve_rtc", "",
    "#endif  // CURVE_RTC_DYNAMIC_H_"]]

/-- The fill points of the header, in the order of its text. -/
def points : List FillPoint :=
  segments.filterMap fun
    | .fixed _ => none
    | .fill point => some point

/-- The template has an open place for exactly the points that the generator fills. -/
theorem points_perm_all : points.Perm FillPoint.all := by decide

end Template

end DeviceSlots
