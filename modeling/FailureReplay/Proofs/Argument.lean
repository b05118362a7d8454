import FailureReplay.Argument
import Mathlib.Data.List.Basic

/-!
# Arguments by position

The literal at a position is that of the token and the type at this position, and
a warning raised there names the position. The warnings of a payload are therefore
in the order of its arguments, at most one for each, and so are they recorded.
-/

namespace FailureReplay

/-- The position of the argument that a warning is about. -/
def Warning.position? : Warning → Option Nat
  | .unsupportedParameter position _ _ | .malformedArgument position _ _ _ => some position
  | .missingActualValue _ | .unsupportedReturn _ => none

namespace Argument

theorem position_of_rejected? {α : Type} {position : Nat} {type : DeclaredType} {token : Text}
    {result : Except Literal.Error α} {w : Warning}
    (h : rejected? position type token result = some w) : w.position? = some position := by
  cases result with
  | ok value => cases h
  | error e =>
    obtain rfl := Option.some.inj h
    rfl

theorem position_of_encodeArray {position : Nat} {element : DeclaredType} {token : Text}
    {w : Warning} (h : (encodeArray position element token).warning? = some w) :
    w.position? = some position := by
  unfold encodeArray at h
  split at h
  · split at h
    · cases h
    · obtain rfl := Option.some.inj h
      rfl
  · obtain rfl := Option.some.inj h
    rfl

/-- Whatever is wrong with an argument, the warning says at which position. -/
theorem position_of_encodeOne {placeholder : Text} {position : Nat} {type : DeclaredType}
    {token : Text} {w : Warning}
    (h : (encodeOne placeholder position type token).warning? = some w) :
    w.position? = some position := by
  unfold encodeOne at h
  split at h
  · cases h
  · cases h
  · cases h
  · exact position_of_rejected? h
  · exact position_of_rejected? h
  · exact position_of_encodeArray h
  · obtain rfl := Option.some.inj h
    rfl
  · obtain rfl := Option.some.inj h
    rfl

/-! ## Writing and encoding -/

/-- Writing an argument puts its warning, if there is one, behind the diagnostics. -/
theorem writeFrom_cons (placeholder : Text) (position : Nat) (type : DeclaredType)
    (types : List DeclaredType) (token : Text) (tokens : List Text) (d : Diagnostics) :
    writeFrom placeholder position (type :: types) (token :: tokens) d =
      let encoded := encodeOne placeholder position type token
      let rest := writeFrom placeholder (position + 1) types tokens
        (d.append (encoded.warning?.toList.map .warned))
      (encoded.literal :: rest.1, rest.2) := by
  rw [writeFrom, Diagnostics.recordAny_eq_append]

/-- Writing arguments yields their literals and leaves their warnings in the diagnostics, in
order. -/
theorem writeFrom_eq (placeholder : Text) (position : Nat) (types : List DeclaredType)
    (tokens : List Text) (d : Diagnostics) :
    writeFrom placeholder position types tokens d =
      (literals (encodeFrom placeholder position types tokens),
        d.append ((warnings (encodeFrom placeholder position types tokens)).map .warned)) := by
  induction types generalizing position tokens d with
  | nil => simp [writeFrom, encodeFrom, literals, warnings]
  | cons type types ih =>
    cases tokens with
    | nil => simp [writeFrom, encodeFrom, literals, warnings]
    | cons token tokens =>
      rw [writeFrom_cons]
      simp only [ih, encodeFrom, literals, List.map_cons, Diagnostics.append_append,
        ← List.map_append]
      congr 4
      cases h : (encodeOne placeholder position type token).warning? with
      | none => rw [warnings, warnings, List.filterMap_cons_none h]; rfl
      | some w => rw [warnings, warnings, List.filterMap_cons_some h]; rfl

/-- Writing the arguments of a payload adds their warnings to those recorded before, each mirrored
to the log. -/
theorem write_eq (placeholder : Text) (types : List DeclaredType) (payload : Text)
    (d : Diagnostics) :
    write placeholder types payload d =
      (literals (encode placeholder types payload),
        ⟨d.warnings ++ warnings (encode placeholder types payload),
          d.events ++ (warnings (encode placeholder types payload)).map .warned⟩) := by
  rw [write, writeFrom_eq, Diagnostics.append_warned]
  rfl

/-! ## Positions -/

/-- Surplus tokens and surplus types are left out. -/
theorem length_encodeFrom (placeholder : Text) (position : Nat) (types : List DeclaredType)
    (tokens : List Text) :
    (encodeFrom placeholder position types tokens).length = min types.length tokens.length := by
  induction types generalizing position tokens with
  | nil => simp [encodeFrom]
  | cons type types ih =>
    cases tokens with
    | nil => simp [encodeFrom]
    | cons token tokens => simp [encodeFrom, ih, Nat.succ_min_succ]

/-- The warnings name positions of the arguments read, in increasing order. -/
theorem positions_encodeFrom (placeholder : Text) (position : Nat) (types : List DeclaredType)
    (tokens : List Text) :
    ∃ positions : List Nat,
      (warnings (encodeFrom placeholder position types tokens)).map Warning.position? =
        positions.map some ∧
      positions.Pairwise (· < ·) ∧
      ∀ i ∈ positions, position ≤ i ∧ i < position + min types.length tokens.length := by
  induction types generalizing position tokens with
  | nil => exact ⟨[], by simp [encodeFrom, warnings]⟩
  | cons type types ih =>
    cases tokens with
    | nil => exact ⟨[], by simp [encodeFrom, warnings]⟩
    | cons token tokens =>
      obtain ⟨positions, hmap, hsorted, hrange⟩ := ih (position + 1) tokens
      have hcount : min (type :: types).length (token :: tokens).length =
          min types.length tokens.length + 1 := by
        simp [Nat.succ_min_succ]
      cases hfirst : (encodeOne placeholder position type token).warning? with
      | none =>
        refine ⟨positions, by simpa [encodeFrom, warnings, hfirst] using hmap, hsorted, ?_⟩
        intro i hi
        have hbounds := hrange i hi
        omega
      | some w =>
        refine ⟨position :: positions, ?_, ?_, ?_⟩
        · rw [encodeFrom, warnings, List.filterMap_cons_some hfirst, List.map_cons,
            position_of_encodeOne hfirst, ← warnings, hmap, List.map_cons]
        · rw [List.pairwise_cons]
          refine ⟨?_, hsorted⟩
          intro i hi
          have hbounds := hrange i hi
          omega
        · intro i hi
          rcases List.mem_cons.mp hi with rfl | hi
          · omega
          · have hbounds := hrange i hi
            omega

end Argument
end FailureReplay
