import FailureReplay.Proofs.Argument
import FailureReplay.Proofs.Harness.Decoders
import FailureReplay.Proofs.Payload

/-!
# Trees as arguments

The literals of trees, joined in a payload, are split at their own ends only if
no placeholder leaves a bracket open: the check of a configuration refuses braces,
quotes and backslashes in a placeholder, but not brackets. The placeholders that
work are exactly those whose brackets close.
-/

namespace FailureReplay

open Payload (Context openBrackets)

theorem Config.Valid.isToken_treePlaceholder {config : Config} (h : config.Valid) :
    Text.IsToken config.treePlaceholder := by
  refine ⟨?_, ?_⟩
  · rw [Config.Valid, Config.problem?] at h
    split_ifs at h with _ _ _ hplaceholder _ _
    intro hnil
    simp [hnil] at hplaceholder
  · intro c hc
    have hbreaks := Harness.not_breaksPlaceholder_of_valid h c hc
    simp only [Config.breaksPlaceholder, Bool.or_eq_false_iff] at hbreaks
    exact hbreaks.1.1.1.1

namespace LevelTree

/-- Some literal is decoded to this tree. -/
def Decoded (t : LevelTree) : Prop := ∃ placeholder literal, parse placeholder literal = .ok t

theorem Decoded.levelOrder {t : LevelTree} (h : t.Decoded) : t.LevelOrder := by
  obtain ⟨placeholder, literal, hparse⟩ := h
  exact levelOrder_of_parse hparse

/-- Nothing but placeholders and numerals is ever written. -/
theorem token_cases (t : LevelTree) (placeholder : Text) (child : Option Nat) :
    t.token placeholder child = placeholder ∨
      ∃ value, t.token placeholder child = Numeral.write value := by
  unfold token
  split
  · next node _ => exact .inr ⟨node.value, rfl⟩
  · exact .inl rfl

theorem childTokens_cases {t : LevelTree} {placeholder : Text} {fuel : Nat} {queue : List Nat}
    {w : Text} (h : w ∈ t.childTokens placeholder fuel queue) :
    w = placeholder ∨ ∃ value, w = Numeral.write value := by
  fun_induction childTokens t placeholder fuel queue with
  | case1 => cases h
  | case2 => cases h
  | case3 fuel i queue hnone ih => exact ih h
  | case4 fuel i queue node hnode ih =>
    rcases List.mem_cons.mp h with rfl | h
    · exact token_cases t placeholder node.left
    · rcases List.mem_cons.mp h with rfl | h
      · exact token_cases t placeholder node.right
      · exact ih h

/-- A literal is written with placeholders and numerals only. -/
theorem tokens_cases {t : LevelTree} {placeholder w : Text} (h : w ∈ t.tokens placeholder) :
    w = placeholder ∨ ∃ value, w = Numeral.write value := by
  unfold tokens at h
  split at h
  · cases h
  · next i _ =>
    rcases List.mem_cons.mp h with rfl | h
    · exact token_cases t placeholder (some i)
    · exact childTokens_cases h

/-- The text between the braces of a literal. -/
def renderInner (t : LevelTree) (placeholder : Text) : Text :=
  Text.join " " ((t.tokens placeholder).rdropWhile (· == placeholder))

theorem render_eq (t : LevelTree) (placeholder : Text) :
    t.render placeholder = '{' :: t.renderInner placeholder ++ ['}'] := rfl

theorem shown_cases {t : LevelTree} {placeholder w : Text}
    (h : w ∈ (t.tokens placeholder).rdropWhile (· == placeholder)) :
    w = placeholder ∨ ∃ value, w = Numeral.write value :=
  tokens_cases ((List.rdropWhile_prefix _ _).subset h)

/-- A character that stands in no numeral and not in the placeholder stands in no literal. -/
theorem not_mem_renderInner {placeholder : Text} {c : Char} (hp : c ∉ placeholder)
    (hdigit : c.isDigit = false) (hminus : c ≠ '-') (hspace : c ≠ ' ') (t : LevelTree) :
    c ∉ t.renderInner placeholder := by
  intro h
  rcases Text.mem_join h with hsep | ⟨w, hw, hc⟩
  · exact hspace (by simpa using hsep)
  · rcases shown_cases hw with rfl | ⟨value, rfl⟩
    · exact hp hc
    · exact Numeral.not_mem_write hdigit hminus value hc

theorem openBrackets_renderInner {placeholder : Text} (hp : openBrackets 0 placeholder = 0)
    (t : LevelTree) : openBrackets 0 (t.renderInner placeholder) = 0 := by
  apply Payload.openBrackets_join (by decide)
  intro w hw
  rcases shown_cases hw with rfl | ⟨value, rfl⟩
  · exact hp
  · exact Payload.openBrackets_of_not_mem (Numeral.not_mem_write (by decide) (by decide) value)
      (Numeral.not_mem_write (by decide) (by decide) value) 0

/-! ## Literals in a payload -/

/-- Spaces inside a tree literal do not separate, for the braces around it. -/
theorem unbroken_render {config : Config} (hvalid : config.Valid) (t : LevelTree) :
    Context.empty.Unbroken (t.render config.treePlaceholder) ∧
      (Context.empty.after (t.render config.treePlaceholder)).braces = 0 ∧
      (Context.empty.after (t.render config.treePlaceholder)).quoted = false := by
  have hinner : ∀ c ∈ t.renderInner config.treePlaceholder, c ≠ '{' ∧ c ≠ '}' ∧ c ≠ '"' := by
    have hnone : ∀ d : Char, Config.breaksPlaceholder d = true → d.isDigit = false → d ≠ '-' →
        d ≠ ' ' → d ∉ t.renderInner config.treePlaceholder := by
      intro d hbreaks hdigit hminus hspace
      refine not_mem_renderInner (fun hmem => ?_) hdigit hminus hspace t
      rw [Harness.not_breaksPlaceholder_of_valid hvalid d hmem] at hbreaks
      cases hbreaks
    intro c hc
    refine ⟨?_, ?_, ?_⟩ <;> rintro rfl <;> revert hc <;> apply hnone <;> decide
  obtain ⟨hunbroken, hbraces, hquoted⟩ :=
    Context.unbroken_of_braces (x := Context.empty.step '{') (by decide) hinner
  rw [render_eq]
  simp only [Context.unbroken_append, Context.after_append, List.cons_append, Context.Unbroken,
    Context.after_cons, Context.after_nil]
  refine ⟨⟨by decide, hunbroken, by simp [Context.separates], trivial⟩, ?_, ?_⟩
  · show _ - 1 = 0
    rw [hbraces]
    rfl
  · exact hquoted

theorem openBrackets_render (t : LevelTree) (placeholder : Text) :
    openBrackets 0 (t.render placeholder) = openBrackets 0 (t.renderInner placeholder) := by
  rw [render_eq, Payload.openBrackets_append]
  rfl

/-- A tree literal can be told from its neighbours, if the placeholder closes its brackets. -/
theorem isAtom_render {config : Config} (hvalid : config.Valid)
    (hp : openBrackets 0 config.treePlaceholder = 0) (t : LevelTree) :
    Payload.IsAtom (t.render config.treePlaceholder) := by
  obtain ⟨hunbroken, hbraces, hquoted⟩ := unbroken_render hvalid t
  refine ⟨by simp [render_eq], trim_braces _, hunbroken, ?_, hbraces, hquoted⟩
  rw [Context.brackets_after]
  exact (openBrackets_render t _).trans (openBrackets_renderInner hp t)

end LevelTree

namespace Argument

/-- The literals of the trees, joined in a payload, are encoded as one decoder call for each and
without a warning. -/
def EncodesTrees (placeholder : Text) (trees : List LevelTree) : Prop :=
  literals (encode placeholder (List.replicate trees.length .tree)
      (Text.join ", " (trees.map fun t => t.render placeholder))) =
    trees.map (fun t => decoderCall "deserializeTreeNode" (t.render placeholder)) ∧
  warnings (encode placeholder (List.replicate trees.length .tree)
      (Text.join ", " (trees.map fun t => t.render placeholder))) = []

theorem encodeFrom_trees {placeholder : Text} {trees : List LevelTree}
    (h : ∀ t ∈ trees, LevelTree.parse placeholder (t.render placeholder) = .ok t)
    (position : Nat) :
    encodeFrom placeholder position (List.replicate trees.length .tree)
        (trees.map fun t => t.render placeholder) =
      trees.map fun t => ⟨decoderCall "deserializeTreeNode" (t.render placeholder), none⟩ := by
  induction trees generalizing position with
  | nil => rfl
  | cons t trees ih =>
    have ht := h t (by simp)
    rw [List.length_cons, List.replicate_succ, List.map_cons, encodeFrom,
      ih fun s hs => h s (List.mem_cons_of_mem _ hs)]
    simp [encodeOne, ht, rejected?]

/-- Tree literals survive the splitting of a payload, and each is decoded to its tree again. -/
theorem encodesTrees_of_closed {config : Config} (hvalid : config.Valid)
    (hnumeral : ∀ value, Numeral.write value ≠ config.treePlaceholder)
    (hclosed : openBrackets 0 config.treePlaceholder = 0) {trees : List LevelTree}
    (htrees : ∀ t ∈ trees, t.Decoded) : EncodesTrees config.treePlaceholder trees := by
  have hatoms : ∀ w ∈ trees.map (fun t => t.render config.treePlaceholder), Payload.IsAtom w := by
    intro w hw
    obtain ⟨t, -, rfl⟩ := List.mem_map.mp hw
    exact LevelTree.isAtom_render hvalid hclosed t
  have hparse : ∀ t ∈ trees,
      LevelTree.parse config.treePlaceholder (t.render config.treePlaceholder) = .ok t := by
    intro t ht
    exact LevelTree.parse_render_of_levelOrder (htrees t ht).levelOrder
      hvalid.isToken_treePlaceholder fun node _ => hnumeral node.value
  rw [EncodesTrees, encode, Payload.tokens_join hatoms, encodeFrom_trees hparse]
  simp [literals, warnings, Function.comp_def]

/-! ## Open brackets -/

def lopsided : LevelTree := ⟨[⟨1, none, some 1⟩, ⟨2, none, none⟩], some 0⟩

def single : LevelTree := ⟨[⟨3, none, none⟩], some 0⟩

theorem decoded_samples : ∀ t ∈ [lopsided, single], t.Decoded := by
  intro t ht
  have horder : t.LevelOrder := by
    rcases List.mem_cons.mp ht with rfl | ht
    · exact .inr ⟨rfl, by simp [lopsided, LevelTree.LevelOrderFrom]⟩
    · rw [List.mem_singleton.mp ht]
      exact .inr ⟨rfl, by simp [single, LevelTree.LevelOrderFrom]⟩
  have hvalues : ∀ node ∈ t.nodes, Numeral.write node.value ≠ "x".toList := by
    intro node _ heq
    have hx : 'x' ∈ Numeral.write node.value := by simp [heq]
    exact Numeral.not_mem_write (by decide) (by decide) node.value hx
  exact ⟨_, _, LevelTree.parse_render_of_levelOrder horder (by decide) hvalues⟩

theorem renderInner_lopsided {placeholder : Text}
    (hnumeral : ∀ value, Numeral.write value ≠ placeholder) :
    lopsided.renderInner placeholder =
      Numeral.write 1 ++ ' ' :: (placeholder ++ ' ' :: Numeral.write 2) := by
  have htokens : lopsided.tokens placeholder =
      [Numeral.write 1, placeholder, Numeral.write 2] ++ [placeholder, placeholder] := by
    simp [LevelTree.tokens, LevelTree.childTokens, LevelTree.token, lopsided]
  have hshown : (lopsided.tokens placeholder).rdropWhile (· == placeholder) =
      [Numeral.write 1, placeholder, Numeral.write 2] := by
    rw [htokens]
    simp [List.rdropWhile, hnumeral]
  simp [LevelTree.renderInner, hshown, Text.join, List.intercalate_cons_cons]

theorem renderInner_single {placeholder : Text}
    (hnumeral : ∀ value, Numeral.write value ≠ placeholder) :
    single.renderInner placeholder = Numeral.write 3 := by
  have htokens : single.tokens placeholder =
      [Numeral.write 3] ++ [placeholder, placeholder] := by
    simp [LevelTree.tokens, LevelTree.childTokens, LevelTree.token, single]
  have hshown : (single.tokens placeholder).rdropWhile (· == placeholder) =
      [Numeral.write 3] := by
    rw [htokens]
    simp [List.rdropWhile, hnumeral]
  simp [LevelTree.renderInner, hshown, Text.join]

theorem openBrackets_lopsided {placeholder : Text}
    (hnumeral : ∀ value, Numeral.write value ≠ placeholder) :
    openBrackets 0 (lopsided.render placeholder) = openBrackets 0 placeholder := by
  have hopen : ∀ value, '[' ∉ Numeral.write value := Numeral.not_mem_write (by decide) (by decide)
  have hclose : ∀ value, ']' ∉ Numeral.write value := Numeral.not_mem_write (by decide) (by decide)
  have hfront : openBrackets 0 (Numeral.write 1) = 0 :=
    Payload.openBrackets_of_not_mem (hopen 1) (hclose 1) 0
  have hback : ∀ n, openBrackets n (' ' :: Numeral.write 2) = n := by
    intro n
    apply Payload.openBrackets_of_not_mem
    · exact List.not_mem_cons_of_ne_of_not_mem (by decide) (hopen 2)
    · exact List.not_mem_cons_of_ne_of_not_mem (by decide) (hclose 2)
  rw [LevelTree.openBrackets_render, renderInner_lopsided hnumeral, Payload.openBrackets_append,
    hfront, ← hback (openBrackets 0 placeholder), ← Payload.openBrackets_append]
  rfl

/-- A placeholder that leaves a bracket open swallows the tree after the one it stands in. -/
theorem not_encodesTrees_of_open {config : Config} (hvalid : config.Valid)
    (hnumeral : ∀ value, Numeral.write value ≠ config.treePlaceholder)
    (hopen : openBrackets 0 config.treePlaceholder ≠ 0) :
    ¬ EncodesTrees config.treePlaceholder [lopsided, single] := by
  let p := config.treePlaceholder
  let payload := Text.join ", " [lopsided.render p, single.render p]
  have hpayload : payload = lopsided.render p ++ (", ".toList ++ single.render p) := by
    simp [payload, Text.join_cons_cons, Text.join_singleton]
  have hunbroken : Context.empty.Unbroken payload := by
    rw [hpayload, Context.unbroken_append]
    refine ⟨(LevelTree.unbroken_render hvalid lopsided).1, ?_⟩
    apply Context.unbroken_of_brackets
    · have hcount := Context.brackets_after .empty (lopsided.render p)
      rw [hcount, show Context.empty.brackets = 0 from rfl, openBrackets_lopsided hnumeral]
      exact Nat.pos_of_ne_zero hopen
    · rw [LevelTree.render_eq, renderInner_single hnumeral]
      decide +kernel
  have htrim : Text.trim payload = payload := by
    apply Payload.trim_join
    · simp [LevelTree.render_eq]
    · simp only [List.mem_cons, List.not_mem_nil, or_false, forall_eq_or_imp, forall_eq]
      exact ⟨LevelTree.trim_braces _, LevelTree.trim_braces _⟩
  have htokens : Payload.tokens payload = [payload] := by
    rw [Payload.tokens, htrim]
    exact Payload.tokensFrom_of_unbroken (by simp [hpayload, LevelTree.render_eq]) htrim hunbroken
  rintro ⟨hliterals, -⟩
  have hlength := congrArg List.length hliterals
  -- One token yields one literal where two are due.
  rw [literals, List.length_map, encode, length_encodeFrom] at hlength
  change min 2 (Payload.tokens payload).length = 2 at hlength
  rw [htokens] at hlength
  simp at hlength

/-- A checked configuration whose placeholder is no numeral encodes every list of decoded trees as
one call for each, without a warning, exactly if its placeholder leaves no bracket open. -/
theorem encodesTrees_iff_closed {config : Config} (hvalid : config.Valid)
    (hnumeral : ∀ value, Numeral.write value ≠ config.treePlaceholder) :
    (∀ trees : List LevelTree, (∀ t ∈ trees, t.Decoded) →
        EncodesTrees config.treePlaceholder trees) ↔
      openBrackets 0 config.treePlaceholder = 0 := by
  constructor
  · intro h
    by_contra hopen
    exact not_encodesTrees_of_open hvalid hnumeral hopen (h _ decoded_samples)
  · intro hclosed trees htrees
    exact encodesTrees_of_closed hvalid hnumeral hclosed htrees

theorem write_ne_of_mem {placeholder : Text} {c : Char} (hc : c ∈ placeholder)
    (hdigit : c.isDigit = false) (hminus : c ≠ '-') (value : Int32) :
    Numeral.write value ≠ placeholder := by
  intro heq
  exact Numeral.not_mem_write hdigit hminus value (heq ▸ hc)

/-- A pair of brackets with a comma between them is a placeholder that works. -/
theorem encodesTrees_iff_closed_pair :
    ({ treePlaceholder := "[,]".toList } : Config).Valid ∧
      (∀ value, Numeral.write value ≠ "[,]".toList) ∧
      EncodesTrees "[,]".toList [lopsided, single] := by
  have hvalid : ({ treePlaceholder := "[,]".toList } : Config).Valid := by
    rw [Config.Valid]
    decide +kernel
  have hnumeral : ∀ value, Numeral.write value ≠ "[,]".toList :=
    write_ne_of_mem (show ',' ∈ "[,]".toList by decide) (by decide) (by decide)
  exact ⟨hvalid, hnumeral,
    (encodesTrees_iff_closed hvalid hnumeral).mpr (by decide +kernel) _ decoded_samples⟩

/-- A single opening bracket passes the check, and two trees come out as one argument. -/
theorem encode_trees_open_bracket :
    ({ treePlaceholder := "[".toList } : Config).Valid ∧
      (∀ value, Numeral.write value ≠ "[".toList) ∧
      (∀ t ∈ [lopsided, single], t.Decoded) ∧
      [lopsided, single].map (fun t => t.render "[".toList) =
        ["\x7b1 [ 2\x7d".toList, "\x7b3\x7d".toList] ∧
      literals (encode "[".toList [.tree, .tree] "\x7b1 [ 2\x7d, \x7b3\x7d".toList) =
        ["deserializeTreeNode(\"\x7b1 [ 2\x7d, \x7b3\x7d\")".toList] ∧
      ¬ EncodesTrees "[".toList [lopsided, single] := by
  have hvalid : ({ treePlaceholder := "[".toList } : Config).Valid := by
    rw [Config.Valid]
    decide +kernel
  have hnumeral : ∀ value, Numeral.write value ≠ "[".toList :=
    write_ne_of_mem (show '[' ∈ "[".toList by decide) (by decide) (by decide)
  have hnot := not_encodesTrees_of_open hvalid hnumeral (by decide)
  exact ⟨hvalid, hnumeral, decoded_samples, by decide +kernel, by decide +kernel, hnot⟩

end Argument

end FailureReplay
