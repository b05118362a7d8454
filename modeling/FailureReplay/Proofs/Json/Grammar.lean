import FailureReplay.Json.Reader

/-!
# The grammar of JSON

Which texts spell a document. The productions leave open what a writer may choose:
white space around every token, an escape or the character itself, and the form of
a number. A string is a sequence of characters and `\u` code units, and denotes a
text unless one half of a surrogate pair stands alone; its spelling is valid either
way.
-/

namespace FailureReplay.Json

def IsSpace (t : Text) : Prop := ∀ c ∈ t, isSpace c = true

def IsDigits (t : Text) : Prop := t ≠ [] ∧ ∀ c ∈ t, c.isDigit = true

/-! ## Strings -/

/-- The one-letter escapes and the characters they stand for. -/
def escapes : List (Char × Char) :=
  [('"', '"'), ('\\', '\\'), ('/', '/'), ('b', Char.ofNat 0x8), ('f', Char.ofNat 0xC),
   ('n', '\n'), ('r', '\r'), ('t', '\t')]

/-- What may stand between the quotes of a string. -/
inductive SpellsUnits : List Unit16 → Text → Prop
  | nil : SpellsUnits [] []
  | plain {c : Char} {units : List Unit16} {t : Text} (visible : 0x20 ≤ c.toNat)
      (unquoted : c ≠ '"') (unescaped : c ≠ '\\') (tail : SpellsUnits units t) :
      SpellsUnits (.char c :: units) (c :: t)
  | escape {e c : Char} {units : List Unit16} {t : Text} (pair : (e, c) ∈ escapes)
      (tail : SpellsUnits units t) : SpellsUnits (.char c :: units) ('\\' :: e :: t)
  | code {a b c d : Char} {unit : Nat} {units : List Unit16} {t : Text}
      (digits : codeUnit? a b c d = some unit) (tail : SpellsUnits units t) :
      SpellsUnits (.code unit :: units) ('\\' :: 'u' :: a :: b :: c :: d :: t)

inductive SpellsString : Option Text → Text → Prop
  | quoted {units : List Unit16} {t : Text} (body : SpellsUnits units t) :
      SpellsString (unitsText? units) ('"' :: t ++ ['"'])

/-! ## Numbers -/

/-- Digits without a superfluous leading zero. -/
def IsWhole (t : Text) : Prop := t = ['0'] ∨ IsDigits t ∧ t.head? ≠ some '0'

inductive SpellsFraction : Text → Text → Prop
  | none : SpellsFraction [] []
  | point {digits : Text} (h : IsDigits digits) : SpellsFraction digits ('.' :: digits)

inductive SpellsExponent : Int → Text → Prop
  | none : SpellsExponent 0 []
  | plain {e : Char} {digits : Text} (he : e = 'e' ∨ e = 'E') (h : IsDigits digits) :
      SpellsExponent (digitsValue digits) (e :: digits)
  | plus {e : Char} {digits : Text} (he : e = 'e' ∨ e = 'E') (h : IsDigits digits) :
      SpellsExponent (digitsValue digits) (e :: '+' :: digits)
  | minus {e : Char} {digits : Text} (he : e = 'e' ∨ e = 'E') (h : IsDigits digits) :
      SpellsExponent (-(digitsValue digits : Int)) (e :: '-' :: digits)

inductive SpellsUnsigned : Decimal → Text → Prop
  | parts {whole fraction f x : Text} {exponent : Int} (hwhole : IsWhole whole)
      (hfraction : SpellsFraction fraction f) (hexponent : SpellsExponent exponent x) :
      SpellsUnsigned ⟨digitsValue (whole ++ fraction), exponent - fraction.length⟩ (whole ++ (f ++ x))

inductive SpellsNumber : Decimal → Text → Prop
  | positive {d : Decimal} {t : Text} (h : SpellsUnsigned d t) : SpellsNumber d t
  | negative {d : Decimal} {t : Text} (h : SpellsUnsigned d t) :
      SpellsNumber ⟨-d.coefficient, d.exponent⟩ ('-' :: t)

/-! ## Values -/

mutual

/-- A value without white space around it. -/
inductive Spells : Json → Text → Prop
  | null : Spells .null ['n', 'u', 'l', 'l']
  | true : Spells (.bool true) ['t', 'r', 'u', 'e']
  | false : Spells (.bool false) ['f', 'a', 'l', 's', 'e']
  | number {d : Decimal} {t : Text} (h : SpellsNumber d t) : Spells (.number d) t
  | string {text : Option Text} {t : Text} (h : SpellsString text t) : Spells (.string text) t
  | emptyArray {gap : Text} (h : IsSpace gap) : Spells (.array []) ('[' :: gap ++ [']'])
  | array {items : List Json} {t : Text} (h : SpellsItems items t) :
      Spells (.array items) ('[' :: t ++ [']'])
  | emptyObject {gap : Text} (h : IsSpace gap) : Spells (.object []) ('{' :: gap ++ ['}'])
  | object {members : List (Option Text × Json)} {t : Text} (h : SpellsMembers members t) :
      Spells (.object members) ('{' :: t ++ ['}'])

/-- A value with white space around it. -/
inductive SpellsDocument : Json → Text → Prop
  | padded {j : Json} {before t after : Text} (hbefore : IsSpace before) (h : Spells j t)
      (hafter : IsSpace after) : SpellsDocument j (before ++ (t ++ after))

/-- One or more items with commas between them. -/
inductive SpellsItems : List Json → Text → Prop
  | last {j : Json} {t : Text} (h : SpellsDocument j t) : SpellsItems [j] t
  | more {j : Json} {items : List Json} {t ts : Text} (h : SpellsDocument j t)
      (hs : SpellsItems items ts) : SpellsItems (j :: items) (t ++ ',' :: ts)

/-- One or more members with commas between them. -/
inductive SpellsMembers : List (Option Text × Json) → Text → Prop
  | last {key : Option Text} {j : Json} {before k after t : Text} (hbefore : IsSpace before)
      (hkey : SpellsString key k) (hafter : IsSpace after) (h : SpellsDocument j t) :
      SpellsMembers [(key, j)] (before ++ (k ++ (after ++ ':' :: t)))
  | more {key : Option Text} {j : Json} {members : List (Option Text × Json)}
      {before k after t ts : Text} (hbefore : IsSpace before) (hkey : SpellsString key k)
      (hafter : IsSpace after) (h : SpellsDocument j t) (hs : SpellsMembers members ts) :
      SpellsMembers ((key, j) :: members) (before ++ (k ++ (after ++ ':' :: t)) ++ ',' :: ts)

end

end FailureReplay.Json
