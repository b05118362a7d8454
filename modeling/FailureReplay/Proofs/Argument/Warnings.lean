import FailureReplay.Proofs.Argument
import FailureReplay.Proofs.Literal.Decoded
import FailureReplay.Session

/-!
# Warnings of arguments

What an argument raises is told by its type, its token and the placeholder: nothing,
a warning that its type has no literal, or a warning that its token does not have the
shape of its type. `Raises` says when, without the encoder; `Reported` says it of all
arguments of a payload at once. Writing a payload adds these warnings to the ones
recorded before, which play no part in them.
-/

namespace FailureReplay

theorem Text.enclosed?_eq_none_iff {opening closing : Char} {t : Text} :
    Text.enclosed? opening closing t = none ↔ ∀ inner, t ≠ opening :: inner ++ [closing] := by
  constructor
  · intro hnone inner ht
    rw [ht, Text.enclosed?_enclosing] at hnone
    cases hnone
  · intro h
    cases henclosed : Text.enclosed? opening closing t with
    | none => rfl
    | some inner => exact absurd (Text.eq_of_enclosed? henclosed) (h inner)

namespace Argument

/-! ## What one argument raises -/

/-- Texts and primitives other than `char` can be the elements of an array argument. -/
def IsElement (type : DeclaredType) : Prop :=
  type = .text ∨ ∃ kind, type = .primitive kind ∧ kind ≠ .char

/-- The types whose tokens are passed through for want of a literal. -/
inductive Unsupported : DeclaredType → Prop
  | void : Unsupported .void
  | other (name : Text) : Unsupported (.other name)
  | array {element : DeclaredType} : ¬ IsElement element → Unsupported (.array element)

/-- The token does not have the shape of its type, for the reason given. -/
inductive Misfits (placeholder : Text) : DeclaredType → Text → Text → Prop
  | list {token : Text} {e : Literal.Error} : LinkedList.parse token = .error e →
      Misfits placeholder .linkedList token e.message
  | tree {token : Text} {e : Literal.Error} : LevelTree.parse placeholder token = .error e →
      Misfits placeholder .tree token e.message
  | array {element : DeclaredType} {token : Text} : IsElement element →
      (∀ inner, token ≠ '[' :: inner ++ [']']) →
      Misfits placeholder (.array element) token "expected a bracketed list".toList

/-- The warning that an argument raises names its position, its type and its token. -/
inductive Raises (placeholder : Text) (position : Nat) (type : DeclaredType) (token : Text) :
    Warning → Prop
  | unsupported : Unsupported type →
      Raises placeholder position type token (.unsupportedParameter position type.render token)
  | malformed {reason : Text} : Misfits placeholder type token reason →
      Raises placeholder position type token
        (.malformedArgument position type.render token reason)

theorem supportedElement_iff (type : DeclaredType) :
    supportedElement type = true ↔ IsElement type := by
  cases type <;> simp [supportedElement, IsElement]

theorem raises_of_rejected? {α : Type} {placeholder : Text} {position : Nat}
    {type : DeclaredType} {token : Text} {result : Except Literal.Error α} {w : Warning}
    (hmisfits : ∀ e, result = .error e → Misfits placeholder type token e.message)
    (h : rejected? position type token result = some w) :
    Raises placeholder position type token w := by
  cases result with
  | ok value => cases h
  | error e =>
    obtain rfl := Option.some.inj h
    exact .malformed (hmisfits e rfl)

theorem raises_of_encodeArray {placeholder : Text} {position : Nat} {element : DeclaredType}
    {token : Text} {w : Warning} (h : (encodeArray position element token).warning? = some w) :
    Raises placeholder position (.array element) token w := by
  unfold encodeArray at h
  split at h
  · next hsupported =>
    split at h
    · cases h
    · next hnone =>
      obtain rfl := Option.some.inj h
      exact .malformed (.array ((supportedElement_iff element).mp hsupported)
        (Text.enclosed?_eq_none_iff.mp hnone))
  · next hunsupported =>
    obtain rfl := Option.some.inj h
    exact .unsupported (.array fun helement =>
      hunsupported ((supportedElement_iff element).mpr helement))

/-- An argument raises no warning but those its type and token call for. -/
theorem raises_of_encodeOne {placeholder : Text} {position : Nat} {type : DeclaredType}
    {token : Text} {w : Warning}
    (h : (encodeOne placeholder position type token).warning? = some w) :
    Raises placeholder position type token w := by
  unfold encodeOne at h
  split at h
  · cases h
  · cases h
  · cases h
  · exact raises_of_rejected? (fun _ he => .list he) h
  · exact raises_of_rejected? (fun _ he => .tree he) h
  · exact raises_of_encodeArray h
  · obtain rfl := Option.some.inj h
    exact .unsupported .void
  · obtain rfl := Option.some.inj h
    exact .unsupported (.other _)

/-- An argument without a literal for its type never passes in silence. -/
theorem warning?_of_unsupported {type : DeclaredType} (h : Unsupported type)
    (placeholder : Text) (position : Nat) (token : Text) :
    (encodeOne placeholder position type token).warning? =
      some (.unsupportedParameter position type.render token) := by
  cases h with
  | void => rfl
  | other name => rfl
  | @array element helement =>
    rw [← supportedElement_iff] at helement
    simp only [encodeOne, encodeArray, if_neg helement]

theorem warning?_of_misfits {placeholder : Text} {type : DeclaredType} {token reason : Text}
    (h : Misfits placeholder type token reason) (position : Nat) :
    (encodeOne placeholder position type token).warning? =
      some (.malformedArgument position type.render token reason) := by
  cases h with
  | list hparse => simp only [encodeOne, hparse, rejected?]
  | tree hparse => simp only [encodeOne, hparse, rejected?]
  | array helement houter =>
    rw [← supportedElement_iff] at helement
    rw [← Text.enclosed?_eq_none_iff] at houter
    simp only [encodeOne, encodeArray, if_pos helement, houter]

/-- An argument raises what `Raises` says and nothing else. -/
theorem warning?_encodeOne_iff {placeholder : Text} {position : Nat} {type : DeclaredType}
    {token : Text} {w : Warning} :
    (encodeOne placeholder position type token).warning? = some w ↔
      Raises placeholder position type token w := by
  refine ⟨raises_of_encodeOne, ?_⟩
  intro h
  cases h with
  | unsupported htype => exact warning?_of_unsupported htype placeholder position token
  | malformed hmisfits => exact warning?_of_misfits hmisfits position

theorem Raises.unsupported_of {placeholder : Text} {position i : Nat} {type : DeclaredType}
    {token typeName name : Text}
    (h : Raises placeholder position type token (.unsupportedParameter i typeName name)) :
    i = position ∧ Unsupported type := by
  cases h with
  | unsupported htype => exact ⟨rfl, htype⟩

theorem Raises.misfits_of {placeholder : Text} {position i : Nat} {type : DeclaredType}
    {token typeName name reason : Text}
    (h : Raises placeholder position type token (.malformedArgument i typeName name reason)) :
    i = position ∧ name = token ∧ Misfits placeholder type token reason := by
  cases h with
  | malformed hmisfits => exact ⟨rfl, rfl, hmisfits⟩

/-! ## All arguments of a payload -/

/-- The literal of a token, whatever its position and whatever stands beside it. -/
def literalOf (placeholder : Text) (type : DeclaredType) (token : Text) : Text :=
  (encodeOne placeholder 0 type token).literal

theorem literal_encodeOne (placeholder : Text) (position : Nat) (type : DeclaredType)
    (token : Text) :
    (encodeOne placeholder position type token).literal = literalOf placeholder type token := by
  unfold literalOf
  cases type with
  | primitive kind => cases kind <;> rfl
  | array element =>
    simp only [encodeOne, encodeArray]
    split
    · split <;> rfl
    · rfl
  | _ => rfl

/-- Each literal depends on its own type and token only. -/
theorem literals_encodeFrom (placeholder : Text) (position : Nat) (types : List DeclaredType)
    (tokens : List Text) :
    literals (encodeFrom placeholder position types tokens) =
      List.zipWith (literalOf placeholder) types tokens := by
  induction types generalizing position tokens with
  | nil => simp [encodeFrom, literals]
  | cons type types ih =>
    cases tokens with
    | nil => simp [encodeFrom, literals]
    | cons token tokens =>
      have hrest := ih (position + 1) tokens
      rw [literals] at hrest
      rw [encodeFrom, literals, List.map_cons, literal_encodeOne, hrest, List.zipWith_cons_cons]

/-- The warnings of a payload are those that its arguments raise, each at its own position. -/
theorem mem_warnings_encodeFrom {placeholder : Text} {position : Nat} {types : List DeclaredType}
    {tokens : List Text} {w : Warning} :
    w ∈ warnings (encodeFrom placeholder position types tokens) ↔
      ∃ i type token, types[i]? = some type ∧ tokens[i]? = some token ∧
        Raises placeholder (position + i) type token w := by
  induction types generalizing position tokens with
  | nil => simp [encodeFrom, warnings]
  | cons type types ih =>
    cases tokens with
    | nil => simp [encodeFrom, warnings]
    | cons token tokens =>
      have hcons : w ∈ warnings (encodeFrom placeholder position (type :: types)
          (token :: tokens)) ↔ Raises placeholder position type token w ∨
            w ∈ warnings (encodeFrom placeholder (position + 1) types tokens) := by
        simp only [encodeFrom, warnings, List.mem_filterMap, List.mem_cons, exists_eq_or_imp,
          warning?_encodeOne_iff]
      have hshift : ∀ i, position + 1 + i = position + (i + 1) := by omega
      rw [hcons, ih]
      constructor
      · intro h
        obtain hfirst | ⟨i, t, k, ht, hk, hraises⟩ := h
        · exact ⟨0, type, token, rfl, rfl, hfirst⟩
        · exact ⟨i + 1, t, k, ht, hk, hshift i ▸ hraises⟩
      · intro h
        obtain ⟨i, t, k, ht, hk, hraises⟩ := h
        cases i with
        | zero =>
          obtain rfl := Option.some.inj ht
          obtain rfl := Option.some.inj hk
          exact .inl hraises
        | succ i => exact .inr ⟨i, t, k, ht, hk, (hshift i).symm ▸ hraises⟩

/-- The warnings of the tokens of a payload under their declared types: in the order of their
positions, no two at one position, each about the argument at its position, and present exactly
where the type has no literal or the token does not fit it. -/
structure Reported (placeholder : Text) (types : List DeclaredType) (tokens : List Text)
    (ws : List Warning) : Prop where
  increasing : ∃ positions : List Nat,
    ws.map Warning.position? = positions.map some ∧ positions.Pairwise (· < ·)
  named : ∀ w ∈ ws, ∃ i type token, types[i]? = some type ∧ tokens[i]? = some token ∧
    (w = .unsupportedParameter i type.render token ∨
      ∃ reason, w = .malformedArgument i type.render token reason)
  unsupported_iff : ∀ i type token, types[i]? = some type → tokens[i]? = some token →
    (.unsupportedParameter i type.render token ∈ ws ↔ Unsupported type)
  malformed_iff : ∀ i type token reason, types[i]? = some type → tokens[i]? = some token →
    (.malformedArgument i type.render token reason ∈ ws ↔
      Misfits placeholder type token reason)
  silent : ∀ i type token, types[i]? = some type → tokens[i]? = some token →
    ¬ Unsupported type → (∀ reason, ¬ Misfits placeholder type token reason) →
    ∀ w ∈ ws, w.position? ≠ some i

/-- Warnings in order of position are settled by which warning an argument raises. -/
theorem reported_of_mem_iff {placeholder : Text} {types : List DeclaredType} {tokens : List Text}
    {ws : List Warning}
    (hincreasing : ∃ positions : List Nat,
      ws.map Warning.position? = positions.map some ∧ positions.Pairwise (· < ·))
    (hmem : ∀ w, w ∈ ws ↔ ∃ i type token, types[i]? = some type ∧ tokens[i]? = some token ∧
      Raises placeholder i type token w) :
    Reported placeholder types tokens ws where
  increasing := hincreasing
  named := by
    intro w hw
    obtain ⟨i, type, token, htype, htoken, hraises⟩ := (hmem w).mp hw
    refine ⟨i, type, token, htype, htoken, ?_⟩
    cases hraises with
    | unsupported _ => exact .inl rfl
    | malformed _ => exact .inr ⟨_, rfl⟩
  unsupported_iff := by
    intro i type token htype htoken
    rw [hmem]
    constructor
    · rintro ⟨j, t, k, ht, -, hraises⟩
      obtain ⟨rfl, hunsupported⟩ := hraises.unsupported_of
      rw [htype] at ht
      rwa [Option.some.inj ht]
    · intro hunsupported
      exact ⟨i, type, token, htype, htoken, .unsupported hunsupported⟩
  malformed_iff := by
    intro i type token reason htype htoken
    rw [hmem]
    constructor
    · rintro ⟨j, t, k, ht, -, hraises⟩
      obtain ⟨rfl, rfl, hmisfits⟩ := hraises.misfits_of
      rw [htype] at ht
      rwa [Option.some.inj ht]
    · intro hmisfits
      exact ⟨i, type, token, htype, htoken, .malformed hmisfits⟩
  silent := by
    intro i type token htype htoken hsupported hfits w hw hposition
    obtain ⟨j, t, k, ht, hk, hraises⟩ := (hmem w).mp hw
    have hj : j = i := by
      cases hraises <;> exact Option.some.inj hposition
    subst hj
    obtain rfl := Option.some.inj (htype.symm.trans ht)
    obtain rfl := Option.some.inj (htoken.symm.trans hk)
    cases hraises with
    | unsupported hunsupported => exact hsupported hunsupported
    | malformed hmisfits => exact hfits _ hmisfits

theorem reported_encode (placeholder : Text) (types : List DeclaredType) (payload : Text) :
    Reported placeholder types (Payload.tokens payload)
      (warnings (encode placeholder types payload)) := by
  obtain ⟨positions, hmap, hsorted, -⟩ :=
    positions_encodeFrom placeholder 0 types (Payload.tokens payload)
  refine reported_of_mem_iff ⟨positions, hmap, hsorted⟩ ?_
  intro w
  rw [encode, mem_warnings_encodeFrom]
  simp only [Nat.zero_add]

/-- A payload yields a literal for each token that has a type, made from that token, that type and
the placeholder alone, and the warnings of these arguments. Writing the payload adds these warnings
to the ones recorded before, each mirrored to the log, and a session that encodes it answers with
the literals and holds the warnings behind those it held. -/
theorem encode_reported (placeholder : Text) (types : List DeclaredType) (payload : Text) :
    (literals (encode placeholder types payload)).length =
        min (Payload.tokens payload).length types.length ∧
      literals (encode placeholder types payload) =
        List.zipWith (literalOf placeholder) types (Payload.tokens payload) ∧
      Reported placeholder types (Payload.tokens payload)
        (warnings (encode placeholder types payload)) ∧
      (∀ d : Diagnostics,
        write placeholder types payload d =
          (literals (encode placeholder types payload),
            ⟨d.warnings ++ warnings (encode placeholder types payload),
              d.events ++ (warnings (encode placeholder types payload)).map .warned⟩)) ∧
      ∀ (s : Session) (signature : Signature), s.config.treePlaceholder = placeholder →
        s.signature? = some signature → signature.paramTypes = types →
        s.step (.encode payload) =
          ({ s with warnings := s.warnings ++ warnings (encode placeholder types payload) },
            .literals (literals (encode placeholder types payload))) := by
  refine ⟨?_, literals_encodeFrom placeholder 0 types _, reported_encode placeholder types payload,
    write_eq placeholder types payload, ?_⟩
  · rw [literals, List.length_map, encode, length_encodeFrom, Nat.min_comm]
  · intro s signature hplaceholder hsignature htypes
    subst hplaceholder htypes
    simp only [Session.step, Session.withSignature, hsignature, write_eq]
    rfl

def fourParameters : Signature :=
  { name := "f".toList, returnType := .void,
    paramTypes := [.tree, .array (.array (.primitive .int)), .array .text, .text] }

/-- One fitting token among four, one token too many, and a warning that was there before. -/
theorem encode_reported_four_parameters :
    Session.step { config := {}, signature? := some fourParameters,
                   warnings := [.missingActualValue 7] }
        (.encode "\x7bx\x7d, [[1]] a \"b\" 5".toList) =
      ({ config := {}, signature? := some fourParameters,
         warnings := [.missingActualValue 7,
           .malformedArgument 0 "TreeNode".toList "\x7bx\x7d".toList
             "Invalid tree literal `\x7bx\x7d`: root cannot be a placeholder".toList,
           .unsupportedParameter 1 "int[][]".toList "[[1]]".toList,
           .malformedArgument 2 "String[]".toList "a".toList
             "expected a bracketed list".toList] },
        .literals ["deserializeTreeNode(\"\x7bx\x7d\")".toList, "[[1]]".toList, "a".toList,
          "\"b\"".toList]) := by
  have hstep := (encode_reported "x".toList fourParameters.paramTypes
    "\x7bx\x7d, [[1]] a \"b\" 5".toList).2.2.2.2
  rw [hstep _ fourParameters (by decide) rfl rfl]
  decide +kernel

end Argument
end FailureReplay
