import FailureReplay.Proofs.Signature
import FailureReplay.Proofs.Source.KeptSignature

/-!
# The return type of a header line

Two readers look at a header line. The scan takes its second word; the signature
takes what stands between the gaps of the header that is read from the first
character. A well-formed header has its return type for a second word and a third
word behind it, whatever follows, so the two readers agree and the scan never falls
back to `void`.
-/

namespace FailureReplay

open Text (words)

/-! ## The words of a header -/

theorem Header.WellFormed.isToken_qualifier {h : Header} (hw : h.WellFormed) :
    Text.IsToken h.qualifier := by
  refine ⟨?_, fun c hc => (hw.qualifier_visible c hc).1⟩
  intro hnil
  have hmem := hw.qualifier_mem
  rw [hnil] at hmem
  revert hmem
  decide

/-- The words of a header line start with the qualifier and the return type. -/
theorem Header.WellFormed.exists_words {h : Header} (hw : h.WellFormed) (rest : Text) :
    ∃ third others, words (h.render ++ rest) = h.qualifier :: h.returnType :: third :: others := by
  let tail := h.nameGap ++ '(' :: h.params ++ ')' :: rest
  have htext : h.render ++ rest =
      h.qualifier ++ (h.qualifierGap ++ (h.returnType ++ (h.typeGap ++ (h.name ++ tail)))) := by
    simp [render, tail]
  obtain ⟨c, name, hname⟩ := List.exists_cons_of_ne_nil hw.name_ne
  have hvisible : Text.isBlank c = false :=
    Text.not_blank_of_word (hw.name_word c (by simp [hname]))
  obtain ⟨w, others, hthird⟩ := Text.words_cons_visible hvisible (name ++ tail)
  refine ⟨c :: w, others, ?_⟩
  rw [htext,
    Text.words_token_append hw.isToken_qualifier
      (head?_append_of_ne_nil hw.qualifierGap_ne hw.qualifierGap_blank),
    Text.words_blanks_append hw.qualifierGap_blank,
    Text.words_token_append hw.returnType_token
      (head?_append_of_ne_nil hw.typeGap_ne hw.typeGap_blank),
    Text.words_blanks_append hw.typeGap_blank, hname, List.cons_append, hthird]

/-! ## What can be wrong with a header -/

/-- A parameter list is read, or its first piece of fewer than two words is named. -/
theorem Signature.paramTypes?_cases (params : Text) :
    (∃ types, paramTypes? params = .ok types) ∨
      ∃ piece ∈ params.splitOn ',', (words piece).length < 2 ∧
        paramTypes? params = .error (.badParameter (Text.trim piece)) := by
  by_cases hblank : Text.allBlank params = true
  · exact .inl ⟨[], by rw [paramTypes?, if_pos hblank]⟩
  · have hvisible : Text.allBlank params = false := by simpa using hblank
    cases hshort : (params.splitOn ',').find? isShort with
    | none =>
      have htypes : ∀ piece ∈ params.splitOn ',', paramType piece =
          .ok (DeclaredType.classify (Text.join " " (words piece).dropLast)) := by
        intro piece hpiece
        have hlong := List.find?_eq_none.mp hshort piece hpiece
        exact paramType_of_not_isShort (by simpa using hlong)
      exact .inl ⟨_, (paramTypes?_eq hvisible).trans (mapM_of_forall_ok htypes)⟩
    | some piece =>
      right
      have hwords := List.find?_some hshort
      exact ⟨piece, List.mem_of_find?_eq_some hshort, by simpa [isShort] using hwords,
        paramTypes?_of_first_short hvisible hshort⟩

namespace Source

theorem headerType_of_words {line first returnType third : Text} {others : List Text}
    (h : words line = first :: returnType :: third :: others) :
    headerType line = DeclaredType.classify returnType := by
  rw [headerType, h]

/-- A header line starts with a header, and with one only. Its return type is the second word of
the line, with a third behind it, so the scan reads the type that the signature has. Nothing but a
parameter can keep the line from having a signature. -/
theorem headerType_eq_captured {line : Text} (hline : Header.isLine line = true) :
    ∃ h : Header, h.WellFormed ∧ h.render <+: line ∧
      (∀ g : Header, g.WellFormed → g.render <+: line → g = h) ∧
      Header.find? line = some h ∧
      (∃ third others, words line = h.qualifier :: h.returnType :: third :: others) ∧
      headerType line = DeclaredType.classify h.returnType ∧
      ((∃ s, Signature.extract line = .ok s ∧ s.returnType = headerType line) ∨
        ∃ piece ∈ h.params.splitOn ',', (words piece).length < 2 ∧
          Signature.extract line = .error (.badParameter (Text.trim piece))) := by
  obtain ⟨h, rest, hw, rfl⟩ := exists_render_of_isLine hline
  obtain ⟨third, others, hwords⟩ := hw.exists_words rest
  have htype := headerType_of_words hwords
  have hfind := hw.find?_render rest
  have hextract : Signature.extract (h.render ++ rest) = Signature.ofHeader h := by
    rw [Signature.extract, hfind]
  refine ⟨h, hw, List.prefix_append _ _, ?_, hfind, ⟨third, others, hwords⟩, htype, ?_⟩
  · intro g hg hprefix
    obtain ⟨after, htext⟩ := hprefix
    have hread := hg.read?_render after
    rw [htext, hw.read?_render rest] at hread
    exact (congrArg Prod.fst (Option.some.inj hread)).symm
  · rw [hextract, htype, Signature.ofHeader]
    obtain ⟨types, hparams⟩ | ⟨piece, hpiece, hshort, hparams⟩ :=
      Signature.paramTypes?_cases h.params
    · exact .inl ⟨_, by rw [hparams]; rfl, rfl⟩
    · exact .inr ⟨piece, hpiece, hshort, by rw [hparams]; rfl⟩

/-- Gaps other than spaces, commas in the type and a parameter without a type. -/
theorem headerType_eq_captured_wide_gaps :
    Header.isLine "protected\u00a0Map<K,V>\u2003f (int a, b)\x7b".toList = true ∧
      headerType "protected\u00a0Map<K,V>\u2003f (int a, b)\x7b".toList =
        DeclaredType.classify "Map<K,V>".toList ∧
      ∃ piece, Signature.extract "protected\u00a0Map<K,V>\u2003f (int a, b)\x7b".toList =
        .error (.badParameter piece) := by
  have hline : Header.isLine "protected\u00a0Map<K,V>\u2003f (int a, b)\x7b".toList = true := by
    decide +kernel
  have hwords : words "protected\u00a0Map<K,V>\u2003f (int a, b)\x7b".toList =
      ["protected".toList, "Map<K,V>".toList, "f".toList, "(int".toList, "a,".toList,
        "b)\x7b".toList] := by decide +kernel
  have hfails : (Signature.extract
      "protected\u00a0Map<K,V>\u2003f (int a, b)\x7b".toList).toOption = none := by
    decide +kernel
  obtain ⟨h, -, -, -, -, ⟨third, others, hcaptured⟩, htype, hextract⟩ :=
    headerType_eq_captured hline
  rw [hwords] at hcaptured
  obtain ⟨-, hsecond, -⟩ : _ ∧ "Map<K,V>".toList = h.returnType ∧ _ := by
    simpa using hcaptured
  refine ⟨hline, by rw [htype, hsecond], ?_⟩
  obtain ⟨s, hok, -⟩ | ⟨piece, -, -, herror⟩ := hextract
  · rw [hok] at hfails
    cases hfails
  · exact ⟨_, herror⟩

end Source
end FailureReplay
