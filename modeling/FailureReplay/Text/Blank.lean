import FailureReplay.Text.Ranges

/-!
# White space

The Unicode `White_Space` property, and trimming and word splitting by it.
-/

namespace FailureReplay.Text

/-- The code points of the Unicode property `White_Space`. -/
def blankRanges : RangeTable :=
  [(0x9, 0xD), (0x20, 0x20), (0x85, 0x85), (0xA0, 0xA0), (0x1680, 0x1680), (0x2000, 0x200A),
   (0x2028, 0x2029), (0x202F, 0x202F), (0x205F, 0x205F), (0x3000, 0x3000)]

def isBlank (c : Char) : Bool := blankRanges.contains c.toNat

theorem ascendingFrom_blankRanges : blankRanges.ascendingFrom 0 = true := by decide

def trimStart (t : Text) : Text := t.dropWhile isBlank

def trimEnd (t : Text) : Text := (t.reverse.dropWhile isBlank).reverse

def trim (t : Text) : Text := trimEnd (trimStart t)

/-- A text without a non-blank character. -/
def allBlank (t : Text) : Bool := t.all isBlank

def words : Text → List Text
  | [] => []
  | c :: rest =>
    if isBlank c then words rest
    else
      match rest, words rest with
      | d :: _, w :: ws => if isBlank d then [c] :: w :: ws else (c :: w) :: ws
      | _, ws => [c] :: ws

theorem length_trimStart_le (t : Text) : (trimStart t).length ≤ t.length :=
  (List.dropWhile_sublist isBlank).length_le

theorem length_trimEnd_le (t : Text) : (trimEnd t).length ≤ t.length := by
  have h : (t.reverse.dropWhile isBlank).length ≤ t.reverse.length :=
    (List.dropWhile_sublist isBlank).length_le
  simpa [trimEnd] using h

theorem length_trim_le (t : Text) : (trim t).length ≤ t.length :=
  Nat.le_trans (length_trimEnd_le _) (length_trimStart_le t)

end FailureReplay.Text
