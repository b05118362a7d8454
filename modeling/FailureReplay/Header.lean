import FailureReplay.Text.Blank
import FailureReplay.Text.Word

/-!
# Method headers

A header is an access qualifier, a return type token, a name and a parenthesised
parameter list. Neighbouring parts are drawn from disjoint character classes, so
a text has at most one reading as a header from a given position, and the pieces
of the reading spell out exactly the text it covers.
-/

namespace FailureReplay

/-- A method header in its pieces, white space included. -/
structure Header where
  qualifier : Text
  qualifierGap : Text
  returnType : Text
  typeGap : Text
  name : Text
  nameGap : Text
  params : Text
  deriving DecidableEq, Repr

namespace Header

def render (h : Header) : Text :=
  h.qualifier ++ h.qualifierGap ++ h.returnType ++ h.typeGap ++ h.name ++ h.nameGap ++
    '(' :: h.params ++ [')']

/-- The access qualifiers that open a header. -/
def qualifiers : List Text := ["public".toList, "protected".toList, "private".toList]

/-- The qualifier at the front of a text, and what follows it. -/
def qualifier? (t : Text) : Option (Text × Text) :=
  qualifiers.findSome? fun q => (Text.afterStart? q t).map fun rest => (q, rest)

/-- A parenthesised stretch without a closing parenthesis inside, and what follows it. -/
def params? : Text → Option (Text × Text)
  | '(' :: rest =>
    match rest.dropWhile (· != ')') with
    | _ :: after => some (rest.takeWhile (· != ')'), after)
    | [] => none
  | _ => none

/-- The header at the front of a text, and what follows it. -/
def read? (t : Text) : Option (Header × Text) := do
  let (qualifier, t) ← qualifier? t
  let (qualifierGap, t) ← Text.run? Text.isBlank t
  let (returnType, t) ← Text.run? (fun c => !Text.isBlank c) t
  let (typeGap, t) ← Text.run? Text.isBlank t
  let (name, t) ← Text.run? Text.isWord t
  let (params, rest) ← params? (t.dropWhile Text.isBlank)
  return ({ qualifier, qualifierGap, returnType, typeGap, name,
            nameGap := t.takeWhile Text.isBlank, params }, rest)

/-- A qualifier that was read stands at the front of the text. -/
theorem append_of_qualifier? {t qualifier rest : Text} (h : qualifier? t = some (qualifier, rest)) :
    qualifier ++ rest = t := by
  obtain ⟨q, -, hq⟩ := List.exists_of_findSome?_eq_some h
  obtain ⟨r, hr, heq⟩ := Option.map_eq_some_iff.1 hq
  obtain ⟨rfl, rfl⟩ := Prod.mk.inj heq
  exact Text.append_of_afterStart? hr

/-- Parameters that were read stand between parentheses at the front of the text. -/
theorem append_of_params? {t params rest : Text} (h : params? t = some (params, rest)) :
    '(' :: params ++ ')' :: rest = t := by
  unfold params? at h
  split at h
  · next body =>
    split at h
    · next c after hdrop =>
      obtain ⟨rfl, rfl⟩ := Prod.mk.inj (Option.some.inj h)
      have hc : c = ')' := by
        have := List.head?_dropWhile_not (p := (· != ')')) body
        simpa [hdrop] using this
      have hbody := List.takeWhile_append_dropWhile (p := (· != ')')) (l := body)
      rw [hdrop, hc] at hbody
      rw [List.cons_append, hbody]
    · simp at h
  · simp at h

/-- The pieces of a header and what follows it spell out the text that was read. -/
theorem append_of_read? {t rest : Text} {header : Header} (h : read? t = some (header, rest)) :
    header.render ++ rest = t := by
  simp only [read?, Option.bind_eq_bind, Option.bind_eq_some_iff, Prod.exists] at h
  obtain ⟨q, t₁, hq, g, t₂, hg, r, t₃, hr, g', t₄, hg', n, t₅, hn, p, t₆, hp, h⟩ := h
  obtain ⟨rfl, rfl⟩ := Prod.mk.inj (Option.some.inj h)
  have hgap : t₅.takeWhile Text.isBlank ++ ('(' :: p ++ ')' :: t₆) = t₅ := by
    rw [append_of_params? hp, List.takeWhile_append_dropWhile]
  rw [← append_of_qualifier? hq, ← Text.run?_append hg, ← Text.run?_append hr,
    ← Text.run?_append hg', ← Text.run?_append hn]
  simpa [render] using hgap

/-- The first header in a text. -/
def find? : Text → Option Header
  | [] => none
  | c :: rest =>
    match read? (c :: rest) with
    | some (h, _) => some h
    | none => find? rest

/-- Whether a trimmed line is a header, optionally followed by an opening brace. -/
def isLine (t : Text) : Bool :=
  match read? t with
  | none => false
  | some (_, rest) =>
    match rest.dropWhile Text.isBlank with
    | [] => true
    | [c] => c = '{'
    | _ => false

end Header
end FailureReplay
