import FailureReplay.Json.Writer
import FailureReplay.Proofs.Json.Reader
import FailureReplay.Proofs.Numeral

/-!
# What is written can be read

Both forms of a document, the compact one and the indented one, are spellings of
it, so reading undoes writing whatever the document holds.
-/

namespace FailureReplay.Json

/-! ## Strings -/

theorem unitsText?_code {unit : Nat} (h : unit < 0xD800) (units : List Unit16) :
    unitsText? (.code unit :: units) = (unitsText? units).map (Char.ofNat unit :: ·) := by
  have hhigh : isHighSurrogate unit = false := by simp [isHighSurrogate]; omega
  have hlow : isLowSurrogate unit = false := by simp [isLowSurrogate]; omega
  cases units with
  | nil => simp [unitsText?, hhigh, hlow]
  | cons u units =>
    cases u with
    | char c => simp [unitsText?, hhigh, hlow]
    | code low => simp [unitsText?, hhigh, hlow]

/-- A character is written as itself, by a letter, or below the space by its code. -/
theorem spells_escapeChar (c : Char) {units : List Unit16} {s t : Text}
    (htext : unitsText? units = some s) (hspells : SpellsUnits units t) :
    ∃ units', unitsText? units' = some (c :: s) ∧ SpellsUnits units' (escapeChar c ++ t) := by
  have hchar : unitsText? (.char c :: units) = some (c :: s) := by
    rw [unitsText?, htext]
    rfl
  have hescape : ∀ {e : Char}, (e, c) ∈ escapes → ∃ units', unitsText? units' = some (c :: s) ∧
      SpellsUnits units' ('\\' :: e :: t) :=
    fun hpair => ⟨_, hchar, .escape hpair hspells⟩
  have hcode : ∀ {n : Nat}, c.toNat = n → c = Char.ofNat n := by
    rintro n rfl
    exact (Char.ofNat_toNat c).symm
  unfold escapeChar
  split
  · next h =>
    subst h
    exact hescape (by decide)
  split
  · next h =>
    subst h
    exact hescape (by decide)
  split
  · next h =>
    subst h
    exact hescape (by decide)
  split
  · next h =>
    subst h
    exact hescape (by decide)
  split
  · next h =>
    subst h
    exact hescape (by decide)
  split
  · next h =>
    obtain rfl := hcode h
    exact hescape (by decide)
  split
  · next h =>
    obtain rfl := hcode h
    exact hescape (by decide)
  split
  · next h =>
    have htable : ∀ n < 0x20,
        codeUnit? '0' '0' (Nat.digitChar (n / 16)) (Nat.digitChar (n % 16)) = some n := by decide
    refine ⟨.code c.toNat :: units, ?_, .code (htable c.toNat h) hspells⟩
    rw [unitsText?_code (by omega), htext, Char.ofNat_toNat]
    rfl
  · next hquote hslash _ _ _ _ _ hcontrol =>
    exact ⟨_, hchar, .plain (Nat.le_of_not_lt hcontrol) hquote hslash hspells⟩

/-- Every text is written so that it reads as itself, quotes and control characters included. -/
theorem spells_writeText (t : Text) : SpellsString (some t) (writeText t) := by
  obtain ⟨units, htext, hspells⟩ : ∃ units, unitsText? units = some t ∧
      SpellsUnits units (t.flatMap escapeChar) := by
    induction t with
    | nil => exact ⟨[], rfl, .nil⟩
    | cons c t ih =>
      obtain ⟨units, htext, hspells⟩ := ih
      exact spells_escapeChar c htext hspells
  rw [← htext]
  exact .quoted hspells

theorem spells_writeString (text : Option Text) : SpellsString text (writeString text) := by
  cases text with
  | some t => exact spells_writeText t
  | none =>
    have hlone : unitsText? [.code 0xD800] = none := by decide
    rw [← hlone]
    exact .quoted (.code (by decide) .nil)

/-! ## Numbers -/

theorem digitsValue_decimal (n : Nat) : digitsValue (Text.decimal n) = n := by
  have hstep : (fun (n : Nat) (c : Char) => n * 10 + (c.toNat - 48)) =
      fun n c => 10 * n + (c.toNat - '0'.toNat) := by
    funext n c
    rw [Nat.mul_comm]
    rfl
  rw [digitsValue, hstep, ← Nat.ofDigitChars_eq_foldl]
  exact Nat.ofDigitChars_ten_toDigits

theorem isDigits_decimal (n : Nat) : IsDigits (Text.decimal n) :=
  ⟨Numeral.decimal_ne_nil n, fun _ hc => Numeral.isDigit_of_mem_decimal hc⟩

theorem head_decimal {n : Nat} (h : 0 < n) : (Text.decimal n).head? ≠ some '0' := by
  induction n using Nat.strongRecOn with
  | _ n ih =>
    rw [Text.decimal, Nat.toDigits_eq_if (by decide)]
    split
    · next hlt =>
      have htable : ∀ n < 10, 0 < n → [Nat.digitChar n].head? ≠ some '0' := by decide
      exact htable n hlt h
    · next hge =>
      have hfront := ih (n / 10) (Nat.div_lt_self h (by decide)) (Nat.div_pos (by omega) (by decide))
      rw [List.head?_append_of_ne_nil _ (Nat.toDigits_ne_nil)]
      exact hfront

theorem isWhole_decimal (n : Nat) : IsWhole (Text.decimal n) := by
  rcases Nat.eq_zero_or_pos n with rfl | hpos
  · exact .inl (by decide)
  · exact .inr ⟨isDigits_decimal n, head_decimal hpos⟩

theorem spells_whole (n : Nat) {exponent : Int} {x : Text} (h : SpellsExponent exponent x) :
    SpellsUnsigned ⟨n, exponent⟩ (Text.decimal n ++ x) := by
  have hparts := SpellsUnsigned.parts (isWhole_decimal n) .none h
  simpa [digitsValue_decimal] using hparts

theorem spells_writeInt (n : Int) {exponent : Int} {x : Text} (h : SpellsExponent exponent x) :
    SpellsNumber ⟨n, exponent⟩ (writeInt n ++ x) := by
  have hwhole := spells_whole n.natAbs h
  unfold writeInt
  split
  · next hneg =>
    have hvalue : n = -(n.natAbs : Int) := by omega
    have hnumber := SpellsNumber.negative hwhole
    rw [← hvalue] at hnumber
    exact hnumber
  · next hpos =>
    have hvalue : n = (n.natAbs : Int) := by omega
    rw [← hvalue] at hwhole
    exact .positive hwhole

theorem spells_writeNumber (d : Decimal) : SpellsNumber d (writeNumber d) := by
  unfold writeNumber
  split
  · next hzero =>
    have hnumber := spells_writeInt d.coefficient .none
    rw [List.append_nil, ← hzero] at hnumber
    exact hnumber
  · apply spells_writeInt
    unfold writeInt
    split
    · next hneg =>
      have hminus := SpellsExponent.minus (e := 'e') (.inl rfl) (isDigits_decimal d.exponent.natAbs)
      rw [digitsValue_decimal] at hminus
      rwa [show -(d.exponent.natAbs : Int) = d.exponent by omega] at hminus
    · next hpos =>
      have hplain := SpellsExponent.plain (e := 'e') (.inl rfl) (isDigits_decimal d.exponent.natAbs)
      rw [digitsValue_decimal] at hplain
      rwa [show (d.exponent.natAbs : Int) = d.exponent by omega] at hplain

/-! ## Values -/

/-- The key and the value of a member, with white space only before the value. -/
inductive SpellsMember : Option Text × Json → Text → Prop
  | keyed {key : Option Text} {j : Json} {k gap t : Text} (hkey : SpellsString key k)
      (hgap : IsSpace gap) (h : Spells j t) : SpellsMember (key, j) (k ++ ':' :: (gap ++ t))

theorem isSpace_nil : IsSpace [] := by simp [IsSpace]

theorem spellsItems_intercalate {gap tail : Text} (hgap : IsSpace gap) (htail : IsSpace tail)
    {items : List Json} {ts : List Text} (h : List.Forall₂ Spells items ts) (hne : items ≠ []) :
    SpellsItems items (gap ++ (List.intercalate (',' :: gap) ts ++ tail)) := by
  induction h with
  | nil => exact absurd rfl hne
  | @cons j t items ts hfirst hrest ih =>
    cases hrest with
    | nil =>
      rw [List.intercalate_singleton]
      exact .last (.padded hgap hfirst htail)
    | cons hsecond hothers =>
      have hmore := SpellsItems.more (.padded hgap hfirst isSpace_nil) (ih (by simp))
      rw [List.intercalate_cons_cons]
      simpa using hmore

theorem spellsMembers_intercalate {gap tail : Text} (hgap : IsSpace gap) (htail : IsSpace tail)
    {members : List (Option Text × Json)} {ts : List Text}
    (h : List.Forall₂ SpellsMember members ts) (hne : members ≠ []) :
    SpellsMembers members (gap ++ (List.intercalate (',' :: gap) ts ++ tail)) := by
  induction h with
  | nil => exact absurd rfl hne
  | @cons m t members ts hfirst hrest ih =>
    obtain ⟨hkey, hsep, hvalue⟩ := hfirst
    cases hrest with
    | nil =>
      have hlast := SpellsMembers.last hgap hkey isSpace_nil (.padded hsep hvalue htail)
      rw [List.intercalate_singleton]
      simpa using hlast
    | cons hsecond hothers =>
      have hmore := SpellsMembers.more hgap hkey isSpace_nil (.padded hsep hvalue isSpace_nil)
        (ih (by simp))
      rw [List.intercalate_cons_cons]
      simpa using hmore

theorem spells_joined_items {items : List Json} {ts : List Text}
    (h : List.Forall₂ Spells items ts) : Spells (.array items) ('[' :: Text.join "," ts ++ [']']) := by
  cases h with
  | nil => exact .emptyArray isSpace_nil
  | cons hfirst hrest =>
    have hitems := spellsItems_intercalate isSpace_nil isSpace_nil (.cons hfirst hrest) (by simp)
    rw [List.nil_append, List.append_nil] at hitems
    exact .array hitems

theorem spells_joined_members {members : List (Option Text × Json)} {ts : List Text}
    (h : List.Forall₂ SpellsMember members ts) :
    Spells (.object members) ('{' :: Text.join "," ts ++ ['}']) := by
  cases h with
  | nil => exact .emptyObject isSpace_nil
  | cons hfirst hrest =>
    have hmembers := spellsMembers_intercalate isSpace_nil isSpace_nil (.cons hfirst hrest) (by simp)
    rw [List.nil_append, List.append_nil] at hmembers
    exact .object hmembers

mutual

/-- What is written in compact form is the document, by induction on its nesting. -/
theorem spells_compact (j : Json) : Spells j (compact j) := by
  match j with
  | .null => exact .null
  | .bool true => exact .true
  | .bool false => exact .false
  | .number d => exact .number (spells_writeNumber d)
  | .string text => exact .string (spells_writeString text)
  | .array items => exact spells_joined_items (spells_compactItems items)
  | .object members => exact spells_joined_members (spells_compactMembers members)

theorem spells_compactItems (items : List Json) :
    List.Forall₂ Spells items (compactItems items) := by
  match items with
  | [] => exact .nil
  | item :: items => exact .cons (spells_compact item) (spells_compactItems items)

theorem spells_compactMembers (members : List (Option Text × Json)) :
    List.Forall₂ SpellsMember members (compactMembers members) := by
  match members with
  | [] => exact .nil
  | (key, value) :: members =>
    exact .cons (.keyed (spells_writeString key) isSpace_nil (spells_compact value))
      (spells_compactMembers members)

end

theorem isSpace_newline (level : Nat) : IsSpace (newline level) := by
  intro c hc
  rcases List.mem_cons.mp hc with rfl | hc
  · decide
  · obtain ⟨-, rfl⟩ := List.mem_replicate.mp hc
    decide

theorem block_cons (opening closing : Char) (level : Nat) (t : Text) (ts : List Text) :
    block opening closing level (t :: ts) =
      opening :: (newline (level + 1) ++
        (List.intercalate (',' :: newline (level + 1)) (t :: ts) ++ newline level)) ++ [closing] := by
  simp [block]

theorem spells_block_items {items : List Json} {ts : List Text} (level : Nat)
    (h : List.Forall₂ Spells items ts) : Spells (.array items) (block '[' ']' level ts) := by
  cases h with
  | nil => exact .emptyArray isSpace_nil
  | cons hfirst hrest =>
    rw [block_cons]
    exact .array (spellsItems_intercalate (isSpace_newline _) (isSpace_newline _)
      (.cons hfirst hrest) (by simp))

theorem spells_block_members {members : List (Option Text × Json)} {ts : List Text} (level : Nat)
    (h : List.Forall₂ SpellsMember members ts) :
    Spells (.object members) (block '{' '}' level ts) := by
  cases h with
  | nil => exact .emptyObject isSpace_nil
  | cons hfirst hrest =>
    rw [block_cons]
    exact .object (spellsMembers_intercalate (isSpace_newline _) (isSpace_newline _)
      (.cons hfirst hrest) (by simp))

mutual

/-- Indentation puts white space only where it is allowed. -/
theorem spells_indented (level : Nat) (j : Json) : Spells j (indented level j) := by
  match j with
  | .null => exact .null
  | .bool true => exact .true
  | .bool false => exact .false
  | .number d => exact .number (spells_writeNumber d)
  | .string text => exact .string (spells_writeString text)
  | .array items => exact spells_block_items level (spells_indentedItems (level + 1) items)
  | .object members => exact spells_block_members level (spells_indentedMembers (level + 1) members)

theorem spells_indentedItems (level : Nat) (items : List Json) :
    List.Forall₂ Spells items (indentedItems level items) := by
  match items with
  | [] => exact .nil
  | item :: items => exact .cons (spells_indented level item) (spells_indentedItems level items)

theorem spells_indentedMembers (level : Nat) (members : List (Option Text × Json)) :
    List.Forall₂ SpellsMember members (indentedMembers level members) := by
  match members with
  | [] => exact .nil
  | (key, value) :: members =>
    have hspace : IsSpace [' '] := by simp [IsSpace, isSpace]
    have hmember := SpellsMember.keyed (spells_writeString key) hspace (spells_indented level value)
    rw [indentedMembers, List.append_assoc]
    exact .cons hmember (spells_indentedMembers level members)

end

/-! ## Reading back -/

theorem Spells.document {j : Json} {t : Text} (h : Spells j t) : SpellsDocument j t := by
  have hpadded := SpellsDocument.padded isSpace_nil h isSpace_nil
  simpa using hpadded

/-- Every document is read back from its compact form. -/
theorem read?_compact (j : Json) : read? (compact j) = some j :=
  read?_of_spells (spells_compact j).document

/-- Every document is read back from its indented form. -/
theorem read?_pretty (j : Json) : read? (pretty j) = some j :=
  read?_of_spells (spells_indented 0 j).document

end FailureReplay.Json
