import FailureReplay.Proofs.Source.Scan

/-!
# Tracked methods by position

A method is tracked when its header is met outside every tracked method. The
definitions below say this of positions in a list of lines, without a scanning
state. The scan agrees with them in both directions: a position met outside is
one where the scan stands outside, and the state it holds at any position is the
one the positions describe.
-/

namespace FailureReplay.Source

/-- Line `i` is `header`, a header line once trimmed. -/
def HeaderAt (ls : List Text) (i : Nat) (header : Text) : Prop :=
  ls[i]? = some header ∧ Header.isLine (Text.trim header) = true

/-- A header that ends in its own opening brace. -/
def OpensItself (header : Text) : Prop := (Text.trim header).getLast? = some '{'

/-- The body of the header at line `i` starts at line `b`: its opening brace ends the header line
or stands alone on the next one. -/
inductive BodyStart (ls : List Text) (i : Nat) (header : Text) : Nat → Prop
  | sameLine : OpensItself header → BodyStart ls i header (i + 1)
  | nextLine {next : Text} : ¬ OpensItself header → ls[i + 1]? = some next →
      Text.trim next = ['{'] → BodyStart ls i header (i + 2)

/-- One, plus the opening and minus the closing braces on the lines from `b` up to but not
including `e`. -/
def depthBetween (ls : List Text) (b e : Nat) : Int :=
  1 + (((ls.drop b).take (e - b)).flatten.count '{' : Int)
    - (((ls.drop b).take (e - b)).flatten.count '}' : Int)

/-- Line `j` is the first one of the body from `b` on after which the depth is zero. -/
structure ClosesAt (ls : List Text) (b j : Nat) : Prop where
  le : b ≤ j
  lt_length : j < ls.length
  depth_eq : depthBetween ls b (j + 1) = 0
  first : ∀ k, b ≤ k → k < j → depthBetween ls b (k + 1) ≠ 0

/-- Positions met outside every tracked method: the start, the line after one that is no header,
the line after the one skipped behind a header without a brace, and the line after the one that
closes a tracked method. -/
inductive Outside (ls : List Text) : Nat → Prop
  | start : Outside ls 0
  | plain {i : Nat} {line : Text} : Outside ls i → ls[i]? = some line →
      Header.isLine (Text.trim line) = false → Outside ls (i + 1)
  | skipped {i : Nat} {header next : Text} : Outside ls i → HeaderAt ls i header →
      ¬ OpensItself header → ls[i + 1]? = some next → Text.trim next ≠ ['{'] → Outside ls (i + 2)
  | closed {i b j : Nat} {header : Text} : Outside ls i → HeaderAt ls i header →
      BodyStart ls i header b → ClosesAt ls b j → Outside ls (j + 1)

/-- A tracked method of the given return type has its body from line `b` on. -/
def Tracked (ls : List Text) (returnType : DeclaredType) (b : Nat) : Prop :=
  ∃ i header, Outside ls i ∧ HeaderAt ls i header ∧ BodyStart ls i header b ∧
    returnType = headerType (Text.trim header)

/-! ## Depth by position -/

theorem depthBetween_self (ls : List Text) (b : Nat) : depthBetween ls b b = 1 := by
  simp [depthBetween]

theorem depthBetween_succ {ls : List Text} {b e : Nat} (hbe : b ≤ e) {line : Text}
    (hline : ls[e]? = some line) :
    depthBetween ls b (e + 1) = depthBetween ls b e + line.count '{' - line.count '}' := by
  have hlen : e + 1 - b = (e - b) + 1 := by omega
  have hget : (ls.drop b)[e - b]? = some line := by
    rw [List.getElem?_drop, ← hline]
    congr 1
    omega
  have htake : (ls.drop b).take (e + 1 - b) = (ls.drop b).take (e - b) ++ [line] := by
    rw [hlen, List.take_add_one, hget]
    rfl
  simp only [depthBetween, htake, List.flatten_append, List.count_append, List.flatten_cons,
    List.flatten_nil, List.append_nil]
  omega

/-- What a body has read of the lines from `b` up to but not including `e`. -/
structure Body.Reads (body : Body) (ls : List Text) (b e : Nat) : Prop where
  le : b ≤ e
  depth_pos : 1 ≤ body.depth
  depth_eq : (body.depth : Int) = depthBetween ls b e
  sawReturn_iff : body.sawReturn = true ↔
    ∃ k line, b ≤ k ∧ k < e ∧ ls[k]? = some line ∧ IsReturnLine line

theorem Body.reads_start (ls : List Text) (b : Nat) (returnType : DeclaredType) :
    (Body.start returnType).Reads ls b b where
  le := Nat.le_refl b
  depth_pos := Nat.le_refl 1
  depth_eq := (depthBetween_self ls b).symm
  sawReturn_iff := by
    constructor
    · intro h
      cases h
    · rintro ⟨k, line, hk, hlt, -⟩
      omega

/-- One closing brace at most stands on a line, so an open body never saturates. -/
theorem Body.Reads.advance_depth_eq {body : Body} {ls : List Text} {b e : Nat}
    (h : body.Reads ls b e) {line : Text} (hline : ls[e]? = some line) (hl : WellBroken line) :
    ((body.advance line).depth : Int) = depthBetween ls b (e + 1) := by
  have hclose := hl.count_close_le_one
  have hpos := h.depth_pos
  rw [Body.advance_depth, depthBetween_succ h.le hline, ← h.depth_eq]
  omega

theorem Body.Reads.advance_sawReturn_iff {body : Body} {ls : List Text} {b e : Nat}
    (h : body.Reads ls b e) {line : Text} (hline : ls[e]? = some line) :
    (body.advance line).sawReturn = true ↔
      ∃ k line, b ≤ k ∧ k < e + 1 ∧ ls[k]? = some line ∧ IsReturnLine line := by
  rw [Body.advance_sawReturn, h.sawReturn_iff]
  constructor
  · rintro (⟨k, l, hk, hlt, hget, hret⟩ | hret)
    · exact ⟨k, l, hk, by omega, hget, hret⟩
    · exact ⟨e, line, h.le, by omega, hline, hret⟩
  · rintro ⟨k, l, hk, hlt, hget, hret⟩
    by_cases hke : k = e
    · subst hke
      rw [hline] at hget
      obtain rfl := Option.some.inj hget
      exact .inr hret
    · exact .inl ⟨k, l, hk, by omega, hget, hret⟩

/-- One more line keeps the account of what a body has read. -/
theorem Body.Reads.advance {body : Body} {ls : List Text} {b e : Nat} (h : body.Reads ls b e)
    {line : Text} (hline : ls[e]? = some line) (hl : WellBroken line)
    (hopen : 0 < (body.advance line).depth) : (body.advance line).Reads ls b (e + 1) where
  le := Nat.le_succ_of_le h.le
  depth_pos := hopen
  depth_eq := h.advance_depth_eq hline hl
  sawReturn_iff := h.advance_sawReturn_iff hline

/-! ## The state at a position -/

/-- The state in which a scan of `ls` from the outside meets line `i`. -/
def stateAt (indentUnit : Text) (ls : List Text) (i : Nat) : State :=
  State.after indentUnit .outside (ls.take i)

theorem stateAt_succ (indentUnit : Text) {ls : List Text} {i : Nat} {line : Text}
    (hline : ls[i]? = some line) :
    stateAt indentUnit ls (i + 1) = ((stateAt indentUnit ls i).step indentUnit line).1 := by
  simp [stateAt, State.after, List.take_add_one, hline]

theorem stepOutside_of_not_header {line : Text}
    (h : Header.isLine (Text.trim line) = false) : stepOutside line = .outside := by
  simp [stepOutside, h]

theorem stepOutside_of_opensItself {header : Text} (h : Header.isLine (Text.trim header) = true)
    (ho : OpensItself header) :
    stepOutside header = .inside (Body.start (headerType (Text.trim header))) := by
  unfold OpensItself at ho
  simp [stepOutside, h, ho]

theorem stepOutside_of_not_opensItself {header : Text}
    (h : Header.isLine (Text.trim header) = true) (ho : ¬ OpensItself header) :
    stepOutside header = .awaiting (headerType (Text.trim header)) := by
  unfold OpensItself at ho
  simp [stepOutside, h, ho]

/-- A header met outside opens its body, on its own line or on the next. -/
theorem stateAt_bodyStart {indentUnit : Text} {ls : List Text} {i b : Nat} {header : Text}
    (hout : stateAt indentUnit ls i = .outside) (hh : HeaderAt ls i header)
    (hb : BodyStart ls i header b) :
    stateAt indentUnit ls b = .inside (Body.start (headerType (Text.trim header))) := by
  have hnext : stateAt indentUnit ls (i + 1) = stepOutside header := by
    rw [stateAt_succ indentUnit hh.1, hout]
    rfl
  cases hb with
  | sameLine ho => rw [hnext, stepOutside_of_opensItself hh.2 ho]
  | nextLine ho hget htrim =>
    rw [stateAt_succ indentUnit hget, hnext, stepOutside_of_not_opensItself hh.2 ho]
    simp [State.step, htrim]

/-- While the depth of an opened body stays away from zero, the scan stays inside it. -/
theorem stateAt_inside {indentUnit : Text} {ls : List Text} (hls : ∀ line ∈ ls, WellBroken line)
    {b : Nat} {returnType : DeclaredType}
    (hb : stateAt indentUnit ls b = .inside (Body.start returnType)) {e : Nat} (hbe : b ≤ e)
    (hlen : e ≤ ls.length) (hopen : ∀ k, b ≤ k → k < e → depthBetween ls b (k + 1) ≠ 0) :
    ∃ body, stateAt indentUnit ls e = .inside body ∧ body.returnType = returnType ∧
      body.Reads ls b e := by
  induction e, hbe using Nat.le_induction with
  | base => exact ⟨_, hb, rfl, Body.reads_start ls b returnType⟩
  | succ e hbe ih =>
    obtain ⟨body, hstate, htype, hreads⟩ :=
      ih (by omega) fun k hk hlt => hopen k hk (by omega)
    have hline : ls[e]? = some ls[e] := List.getElem?_eq_getElem (by omega)
    have hwell : WellBroken ls[e] := hls _ (List.getElem_mem _)
    have hdepth := hreads.advance_depth_eq hline hwell
    have hne := hopen e hbe (by omega)
    have hpos : 0 < (body.advance ls[e]).depth := by omega
    refine ⟨body.advance ls[e], ?_, htype, hreads.advance hline hwell hpos⟩
    rw [stateAt_succ indentUnit hline, hstate]
    simp [State.step, hpos]

/-- A position met outside every tracked method is one where the scan stands outside. -/
theorem Outside.stateAt_eq (indentUnit : Text) {ls : List Text}
    (hls : ∀ line ∈ ls, WellBroken line) {i : Nat} (h : Outside ls i) :
    stateAt indentUnit ls i = .outside := by
  induction h with
  | start => simp [stateAt, State.after]
  | plain _ hget hheader ih =>
    rw [stateAt_succ indentUnit hget, ih]
    exact stepOutside_of_not_header hheader
  | skipped _ hh ho hget htrim ih =>
    have hnext := stateAt_succ indentUnit hh.1
    rw [ih, State.step, stepOutside_of_not_opensItself hh.2 ho] at hnext
    rw [stateAt_succ indentUnit hget, hnext]
    simp [State.step, htrim]
  | @closed i b j header _ hh hb hclose ih =>
    obtain ⟨body, hstate, -, hreads⟩ := stateAt_inside hls (stateAt_bodyStart ih hh hb) hclose.le
      (Nat.le_of_lt hclose.lt_length) hclose.first
    have hlt := hclose.lt_length
    have hline : ls[j]? = some ls[j] := List.getElem?_eq_getElem hlt
    have hdepth := hreads.advance_depth_eq hline (hls _ (List.getElem_mem _))
    have hzero : ¬ 0 < (body.advance ls[j]).depth := by
      rw [hclose.depth_eq] at hdepth
      omega
    rw [stateAt_succ indentUnit hline, hstate]
    simp [State.step, hzero]

/-- What a state says of the position where it is held. -/
def State.Describes (ls : List Text) (i : Nat) : State → Prop
  | .outside => Outside ls i
  | .awaiting returnType => ∃ h header, i = h + 1 ∧ Outside ls h ∧ HeaderAt ls h header ∧
      ¬ OpensItself header ∧ returnType = headerType (Text.trim header)
  | .inside body => ∃ b, Tracked ls body.returnType b ∧ body.Reads ls b i ∧
      ∀ k, b ≤ k → k < i → depthBetween ls b (k + 1) ≠ 0

theorem closed_of_tracked {ls : List Text} {returnType : DeclaredType} {b j : Nat}
    (h : Tracked ls returnType b) (hc : ClosesAt ls b j) : Outside ls (j + 1) := by
  obtain ⟨i, header, hout, hh, hb, -⟩ := h
  exact .closed hout hh hb hc

/-- A line that brings an open body to depth zero closes it. -/
theorem Body.Reads.closesAt {body : Body} {ls : List Text} {b j : Nat} (h : body.Reads ls b j)
    (hopen : ∀ k, b ≤ k → k < j → depthBetween ls b (k + 1) ≠ 0) {line : Text}
    (hline : ls[j]? = some line) (hl : WellBroken line) (hzero : (body.advance line).depth = 0) :
    ClosesAt ls b j where
  le := h.le
  lt_length := (List.getElem?_eq_some_iff.mp hline).1
  depth_eq := by rw [← h.advance_depth_eq hline hl, hzero]; rfl
  first := hopen

/-- One step takes what a state says of its position to what the next one says of the next. -/
theorem State.Describes.step {indentUnit : Text} {ls : List Text} {i : Nat} {s : State}
    (h : s.Describes ls i) {line : Text} (hline : ls[i]? = some line) (hl : WellBroken line) :
    (s.step indentUnit line).1.Describes ls (i + 1) := by
  cases s with
  | outside =>
    change (stepOutside line).Describes ls (i + 1)
    by_cases hheader : Header.isLine (Text.trim line) = true
    · by_cases ho : OpensItself line
      · rw [stepOutside_of_opensItself hheader ho]
        refine ⟨i + 1, ⟨i, line, h, ⟨hline, hheader⟩, .sameLine ho, rfl⟩,
          Body.reads_start ls (i + 1) _, ?_⟩
        intro k hk hlt
        omega
      · rw [stepOutside_of_not_opensItself hheader ho]
        exact ⟨i, line, rfl, h, ⟨hline, hheader⟩, ho, rfl⟩
    · rw [stepOutside_of_not_header (by simpa using hheader)]
      exact .plain h hline (by simpa using hheader)
  | awaiting returnType =>
    obtain ⟨p, header, rfl, hout, hh, ho, rfl⟩ := h
    by_cases htrim : Text.trim line = ['{']
    · simp only [State.step, htrim, if_true]
      refine ⟨p + 2, ⟨p, header, hout, hh, .nextLine ho hline htrim, rfl⟩,
        Body.reads_start ls (p + 2) _, ?_⟩
      intro k hk hlt
      omega
    · simp only [State.step, htrim, if_false]
      exact .skipped hout hh ho hline htrim
  | inside body =>
    obtain ⟨b, htracked, hreads, hopen⟩ := h
    by_cases hpos : 0 < (body.advance line).depth
    · simp only [State.step, hpos, if_true]
      refine ⟨b, htracked, hreads.advance hline hl hpos, ?_⟩
      intro k hk hlt
      by_cases hki : k = i
      · rw [hki, ← hreads.advance_depth_eq hline hl]
        omega
      · exact hopen k hk (by omega)
    · simp only [State.step, hpos, if_false]
      exact closed_of_tracked htracked (hreads.closesAt hopen hline hl (by omega))

/-- The state a scan holds at a position describes that position. -/
theorem describes_stateAt (indentUnit : Text) {ls : List Text}
    (hls : ∀ line ∈ ls, WellBroken line) {i : Nat} (hi : i ≤ ls.length) :
    (stateAt indentUnit ls i).Describes ls i := by
  induction i with
  | zero => exact .start
  | succ i ih =>
    have hline : ls[i]? = some ls[i] := List.getElem?_eq_getElem (by omega)
    rw [stateAt_succ indentUnit hline]
    exact (ih (by omega)).step hline (hls _ (List.getElem_mem _))

end FailureReplay.Source
