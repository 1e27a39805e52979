import Mathlib.Algebra.Group.Int
import Mathlib.Order.Lattice

/-!
# Utilities

The helpers of `ecs-agent/utils/utils.go` that the modelled code calls or that compute on
plain values: the pointer conversions between integer widths, the maximum of two numbers, the
decimal rendering of a port list, and the scheme an endpoint is given.

Go's conversion of an integer to `int32` keeps the low 32 bits; `toInt32` is that
conversion, and `toInt32_eq_self_iff` says which integers it keeps. A pointer is an
`Option`. The scheme regular expression `^(http|https)://` matches exactly the strings that
begin with `http://` or `https://`, which `schemeRegexMatches` tests on the characters.
`ZeroOrNil` inspects values by reflection and is left out, as are the floating-point
instances of `MaxNum`.

## Main definitions

* `toInt32`: Go's conversion to `int32`.
* `int32PtrToIntPtr`, `int64PtrToInt32Ptr`: The pointer conversions.
* `maxNum`: The larger of two numbers.
* `uint16SliceToStringSlice`: Ports as decimal strings.
* `addScheme`: An endpoint with `https://` prepended when it has no scheme.

## Theorems

* `toInt32_eq_self_iff`: The conversion keeps exactly the integers of 32 bits.
* `int32PtrToIntPtr_int64PtrToInt32Ptr`: Narrowing then widening keeps exactly the values
  of 32 bits.
* `maxNum_eq_max`: `maxNum` is the maximum.
* `schemeRegexMatches_addScheme`: A non-empty endpoint comes back with a scheme.
* `addScheme_addScheme`: Adding a scheme twice is adding it once.
-/

namespace EcsAgent

namespace Utils

/-- Go's conversion of an integer to `int32`: the low 32 bits, read as a signed number. -/
def toInt32 (x : Int) : Int := (x + 2 ^ 31) % 2 ^ 32 - 2 ^ 31

theorem toInt32_eq_self_iff (x : Int) : toInt32 x = x ↔ -2 ^ 31 ≤ x ∧ x < 2 ^ 31 := by
  unfold toInt32
  omega

/-- `Int32PtrToIntPtr`: nil stays nil, a value is widened unchanged. -/
def int32PtrToIntPtr (int32ptr : Option Int) : Option Int :=
  match int32ptr with
  | none => none
  | some v => some v

@[simp] theorem int32PtrToIntPtr_eq (int32ptr : Option Int) : int32PtrToIntPtr int32ptr = int32ptr := by
  cases int32ptr <;> rfl

/-- `Int64PtrToInt32Ptr`: nil stays nil, a value is converted to `int32`. -/
def int64PtrToInt32Ptr (int64ptr : Option Int) : Option Int :=
  match int64ptr with
  | none => none
  | some v => some (toInt32 v)

/-- Narrowing a pointer to `int32` and widening it back gives the pointer back exactly when
    its value, if any, fits in 32 bits. -/
theorem int32PtrToIntPtr_int64PtrToInt32Ptr (int64ptr : Option Int) :
    int32PtrToIntPtr (int64PtrToInt32Ptr int64ptr) = int64ptr ↔
      ∀ x ∈ int64ptr, -2 ^ 31 ≤ x ∧ x < 2 ^ 31 := by
  cases int64ptr <;> simp [int64PtrToInt32Ptr, toInt32_eq_self_iff]

/-- `MaxNum`, for a linearly ordered number type: the first if it is greater, else the
    second. -/
def maxNum {α : Type} [LinearOrder α] (a b : α) : α :=
  if a > b then a else b

theorem maxNum_eq_max {α : Type} [LinearOrder α] (a b : α) : maxNum a b = max a b := by
  unfold maxNum
  split_ifs with h
  exacts [(max_eq_left h.le).symm, (max_eq_right (not_lt.mp h)).symm]

/-- `Uint16SliceToStringSlice`: each number in decimal, as `strconv.Itoa` writes it. -/
def uint16SliceToStringSlice (slice : List UInt16) : List String :=
  slice.map fun el => toString el.toNat

/-- The prefix `AddScheme` prepends. -/
def httpsPrefix : String := "https://"

/-- Whether `schemeRegex`, `^(http|https)://`, matches: the endpoint begins with `http://` or
    with `https://`. -/
def schemeRegexMatches (endpoint : String) : Bool :=
  "http://".data.isPrefixOf endpoint.data || "https://".data.isPrefixOf endpoint.data

/-- `AddScheme`: an empty endpoint and one with a scheme as they are, any other with
    `https://` prepended. -/
def addScheme (endpoint : String) : String :=
  if endpoint = "" then endpoint
  else if schemeRegexMatches endpoint then endpoint
  else httpsPrefix ++ endpoint

theorem schemeRegexMatches_httpsPrefix_append (endpoint : String) :
    schemeRegexMatches (httpsPrefix ++ endpoint) = true := by
  simp [schemeRegexMatches, httpsPrefix]

/-- A non-empty endpoint comes back with a scheme. -/
theorem schemeRegexMatches_addScheme (endpoint : String) (h : endpoint ≠ "") :
    schemeRegexMatches (addScheme endpoint) = true := by
  unfold addScheme
  split_ifs with hempty hmatches
  exacts [absurd hempty h, hmatches, schemeRegexMatches_httpsPrefix_append endpoint]

theorem addScheme_addScheme (endpoint : String) : addScheme (addScheme endpoint) = addScheme endpoint := by
  by_cases hempty : endpoint = ""
  · simp [addScheme, hempty]
  · have hne : addScheme endpoint ≠ "" := by
      unfold addScheme
      split_ifs
      · exact hempty
      · exact fun h => by simpa [httpsPrefix] using congrArg String.data h
    rw [addScheme, if_neg hne, if_pos (schemeRegexMatches_addScheme endpoint hempty)]

end Utils

end EcsAgent
