import FailureReplay.Text.Blank

/-!
# Declared types

The types a method header can declare, sorted into the classes that decide
default values, argument literals and how results are compared.
-/

namespace FailureReplay

inductive Primitive where
  | int
  | long
  | short
  | byte
  | float
  | double
  | boolean
  | char
  deriving DecidableEq, Repr

namespace Primitive

def all : List Primitive := [int, long, short, byte, float, double, boolean, char]

def keyword : Primitive → Text
  | int => "int".toList
  | long => "long".toList
  | short => "short".toList
  | byte => "byte".toList
  | float => "float".toList
  | double => "double".toList
  | boolean => "boolean".toList
  | char => "char".toList

def ofKeyword? (t : Text) : Option Primitive := all.find? fun k => k.keyword == t

/-- The whole-number primitives. -/
def isIntegral : Primitive → Bool
  | int | long | short | byte => true
  | _ => false

/-- The floating-point primitives. -/
def isFloating : Primitive → Bool
  | float | double => true
  | _ => false

/-- The literal of a primitive's zero value. -/
def zeroLiteral : Primitive → Text
  | int | long | short | byte => "0".toList
  | float | double => "0.0".toList
  | boolean => "false".toList
  | char => "'\\0'".toList

end Primitive

/-- A declared type, by what the library can do with its values. -/
inductive DeclaredType where
  | void
  | primitive (kind : Primitive)
  | array (element : DeclaredType)
  | text
  | linkedList
  | tree
  | other (name : Text)
  deriving DecidableEq, Repr

namespace DeclaredType

theorem length_lt_of_afterStart? {t rest : Text}
    (h : Text.afterStart? "final ".toList t = some rest) :
    (Text.trimStart rest).length < t.length := by
  have hrest := Text.length_trimStart_le rest
  have ht : "final ".toList ++ rest = t := Text.append_of_afterStart? h
  have hlen := congrArg List.length ht
  simp only [List.length_append] at hlen
  have : "final ".toList.length = 6 := rfl
  omega

/-- Drop every leading `final ` together with the white space after it. -/
def dropFinal (t : Text) : Text :=
  match _h : Text.afterStart? "final ".toList t with
  | some rest => dropFinal (Text.trimStart rest)
  | none => t
termination_by t.length
decreasing_by exact length_lt_of_afterStart? (by assumption)

theorem length_dropFinal_le (t : Text) : (dropFinal t).length ≤ t.length := by
  fun_induction dropFinal t with
  | case1 t rest h ih => exact Nat.le_trans ih (Nat.le_of_lt (length_lt_of_afterStart? h))
  | case2 t h => exact Nat.le_refl _

/-- The recursion of `classify` ends, since a bracket pair is taken off each time. -/
theorem length_lt_of_beforeEnding? {raw element : Text}
    (h : Text.beforeEnding? "[]".toList (dropFinal (Text.trim raw)) = some element) :
    element.length < raw.length := by
  have hle := Nat.le_trans (length_dropFinal_le (Text.trim raw)) (Text.length_trim_le raw)
  have ht : element ++ "[]".toList = dropFinal (Text.trim raw) := Text.append_of_beforeEnding? h
  have hlen := congrArg List.length ht
  simp only [List.length_append] at hlen
  have : "[]".toList.length = 2 := rfl
  omega

/-- The class of a type name that is not an array type. -/
def ofName (name : Text) : DeclaredType :=
  match Primitive.ofKeyword? name with
  | some kind => .primitive kind
  | none =>
    if name = "void".toList then .void
    else if name = "String".toList then .text
    else if name = "ListNode".toList then .linkedList
    else if name = "TreeNode".toList then .tree
    else .other name

/-- Classify raw type text such as `int`, `String[]` or `final TreeNode`. -/
def classify (raw : Text) : DeclaredType :=
  match _h : Text.beforeEnding? "[]".toList (dropFinal (Text.trim raw)) with
  | some element => .array (classify element)
  | none => ofName (dropFinal (Text.trim raw))
termination_by raw.length
decreasing_by exact length_lt_of_beforeEnding? (by assumption)

/-- The source spelling of a type. -/
def render : DeclaredType → Text
  | void => "void".toList
  | primitive kind => kind.keyword
  | array element => element.render ++ "[]".toList
  | text => "String".toList
  | linkedList => "ListNode".toList
  | tree => "TreeNode".toList
  | other name => name

def base : DeclaredType → DeclaredType
  | array element => element.base
  | t => t

def dims : DeclaredType → Nat
  | array element => element.dims + 1
  | _ => 0

def isVoid : DeclaredType → Bool
  | void => true
  | _ => false

def isArray : DeclaredType → Bool
  | array _ => true
  | _ => false

/-- `n` copies of an empty pair of brackets. -/
def bracketPairs (n : Nat) : Text := (List.replicate n "[]".toList).flatten

/-- The literal of the zero, empty or null value; `void` has none. -/
def defaultValue? : DeclaredType → Option Text
  | void => none
  | primitive kind => some kind.zeroLiteral
  | array element =>
    some ("new ".toList ++ element.base.render ++ "[0]".toList ++ bracketPairs element.dims)
  | text | linkedList | tree | other _ => some "null".toList

/-- The whole return statement of the default value; `void` has none. -/
def defaultReturn? (t : DeclaredType) : Option Text :=
  t.defaultValue?.map fun value => "return ".toList ++ value ++ [';']

end DeclaredType
end FailureReplay
