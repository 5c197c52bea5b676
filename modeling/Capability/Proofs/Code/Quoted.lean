import Capability.Proofs.Code.Word

/-!
# Quoted literals in front of other text

A quoted literal ends at its closing mark, and behind the mark at the end of its
suffix, which is a word.  So it is read back in front of any text that does not
begin within a word: where its reader stopped at the end of the literal, it stops
at the same place.
-/

namespace Capability
namespace Code
namespace Lexeme

open Unicode (isIdentifierStart isIdentifierContinue)

variable {following : List Char}

/-! ## Suffixes -/

theorem suffixRest_append {suffix : List Char} (all : suffixRest suffix = [])
    (ends : beginsInWord following = false) : suffixRest (suffix ++ following) = following := by
  rw [suffixRest] at all ⊢
  cases ahead : plainWord? suffix with
  | none =>
      rw [ahead, Option.getD_none] at all
      subst all
      rw [List.nil_append]
      cases following with
      | nil => rfl
      | cons c rest =>
          have other := ((beginsInWord_eq_false_iff _).mp ends c rest rfl).1
          rw [plainWord?, other, if_neg Bool.false_ne_true, Option.getD_none]
  | some rest =>
      rw [ahead, Option.getD_some] at all
      have isWord : isPlainWord suffix = true := by
        rw [isPlainWord, ahead, all]
        rfl
      rw [plainWord?_append isWord ends, Option.getD_some]

/-! ## Escapes -/

theorem byteEscape?_append {quoting : Quoting} {text rest : List Char}
    (read : byteEscape? quoting text = some rest) :
    byteEscape? quoting (text ++ following) = some (rest ++ following) := by
  fun_cases byteEscape? quoting text <;> simp_all [byteEscape?]

theorem codeDigits?_append {text rest : List Char} {value count code : Nat}
    (read : codeDigits? value count text = some (code, rest)) :
    codeDigits? value count (text ++ following) = some (code, rest ++ following) := by
  fun_induction codeDigits? value count text <;> simp_all [codeDigits?]

theorem codeEscape?_append {text rest : List Char} {code : Nat}
    (read : codeEscape? text = some (code, rest)) :
    codeEscape? (text ++ following) = some (code, rest ++ following) := by
  fun_cases codeEscape? text with
  | case1 text =>
    simp only [codeEscape?, Option.bind_eq_bind] at read
    rcases Option.bind_eq_some_iff.mp read with ⟨⟨found, behind⟩, digits, scalar⟩
    simp only [codeEscape?, Option.bind_eq_bind, List.cons_append, codeDigits?_append digits,
      Option.bind_some]
    split at scalar
    · next isScalar =>
      cases scalar
      rw [if_pos isScalar]
    · cases scalar
  | case2 => simp [codeEscape?] at read

theorem continuation?_append {pending : Bool} {text rest : List Char}
    (read : continuation? pending text = some rest) :
    continuation? pending (text ++ following) = some (rest ++ following) := by
  fun_induction continuation? pending text <;> simp_all [continuation?]
  subst read
  simp_all [continuation?]

/-- A quoted literal whose opening mark has been read ends where it ended. -/
theorem quotedRest?_append {quoting : Quoting} {fuel extra : Nat} {text : List Char}
    (read : quotedRest? quoting fuel text = some []) (ends : beginsInWord following = false) :
    quotedRest? quoting (fuel + extra) (text ++ following) = some following := by
  fun_induction quotedRest? quoting fuel text with
  | case1 | case2 | case5 | case7 | case12 | case13 | case15 => cases read
  | case3 fuel rest =>
      simp [Nat.succ_add, quotedRest?, suffixRest_append (Option.some.inj read) ends]
  | case4 fuel rest _ inductionHypothesis =>
      simp [Nat.succ_add, quotedRest?, inductionHypothesis read]
  | case6 fuel rest _ _ inductionHypothesis =>
      rcases Option.bind_eq_some_iff.mp read with ⟨behind, escape, read⟩
      simp [Nat.succ_add, quotedRest?, byteEscape?_append escape, inductionHypothesis behind read]
  | case8 fuel rest other _ _ inductionHypothesis =>
      rcases Option.bind_eq_some_iff.mp read with ⟨⟨code, behind⟩, escape, read⟩
      simp only [Option.ite_none_left_eq_some] at read
      simp [Nat.succ_add, quotedRest?, codeEscape?_append escape,
        inductionHypothesis behind read.2, other]
      simpa using read.1
  | case9 fuel rest _ _ inductionHypothesis =>
      rcases Option.bind_eq_some_iff.mp read with ⟨behind, swallowed, read⟩
      simp [Nat.succ_add, quotedRest?, continuation?_append swallowed,
        inductionHypothesis behind read]
  | case10 fuel rest _ _ inductionHypothesis =>
      rcases Option.bind_eq_some_iff.mp read with ⟨behind, swallowed, read⟩
      simp [Nat.succ_add, quotedRest?, continuation?_append swallowed,
        inductionHypothesis behind read]
  | case11 fuel escaped rest notByte notCode notLine notReturn isShort _ _ inductionHypothesis =>
      simp [Nat.succ_add, quotedRest?, isShort, inductionHypothesis read]
  | case14 fuel c rest notQuote notReturn notEscape isPlain inductionHypothesis =>
      simp [Nat.succ_add, quotedRest?, notQuote, notReturn, notEscape, isPlain,
        inductionHypothesis read]

/-! ## Literals without escapes -/

theorem hashes?_append {text rest : List Char} {count found : Nat}
    (read : hashes? count text = some (found, rest)) :
    hashes? count (text ++ following) = some (found, rest ++ following) := by
  fun_induction hashes? count text <;> simp_all [hashes?]

/-- Hash marks alone end no literal. -/
theorem rawRest?_hashes (quoting : Quoting) (count marks : Nat) :
    rawRest? quoting count (List.replicate marks '#') = none := by
  induction marks with
  | zero => rfl
  | succ marks inductionHypothesis =>
      rw [List.replicate_succ, rawRest?.eq_def]
      simp [inductionHypothesis]

/-- Where hash marks are ahead that would end a literal, they are all its own or the rest of it
consists of hash marks. -/
theorem hashes_ahead {count : Nat} {rest : List Char}
    (ahead : List.replicate count '#' <+: rest ++ following) :
    List.replicate count '#' <+: rest ∨ ∃ marks, rest = List.replicate marks '#' := by
  rcases List.prefix_or_prefix_of_prefix ahead (List.prefix_append rest following) with
    own | short
  · exact .inl own
  · refine .inr ⟨rest.length, List.eq_replicate_of_mem ?_⟩
    exact fun c member => List.eq_of_mem_replicate (short.subset member)

theorem rawRest?_append {quoting : Quoting} {count : Nat} {text : List Char}
    (read : rawRest? quoting count text = some []) (ends : beginsInWord following = false) :
    rawRest? quoting count (text ++ following) = some following := by
  fun_induction rawRest? quoting count text with
  | case1 | case4 | case6 => cases read
  | case2 c rest closes =>
      rw [Bool.and_eq_true, decide_eq_true_eq, List.isPrefixOf_iff_prefix] at closes
      rcases closes with ⟨rfl, marks, rfl⟩
      have front : List.replicate count '#' <+:
          (List.replicate count '#' ++ marks) ++ following := by
        rw [List.append_assoc]
        exact List.prefix_append _ _
      rw [List.drop_left' List.length_replicate] at read
      rw [List.cons_append, rawRest?.eq_def]
      simp only [List.isPrefixOf_iff_prefix.mpr front, decide_true, Bool.and_self, if_true]
      rw [List.append_assoc, List.drop_left' List.length_replicate,
        suffixRest_append (Option.some.inj read) ends]
  | case3 rest notEnd inductionHypothesis =>
      rw [List.cons_append, List.cons_append, rawRest?.eq_def]
      simp [inductionHypothesis read]
  | case5 c rest notEnd notReturn isPlain inductionHypothesis =>
      have stillNotEnd : ¬(decide (c = '"') &&
          (List.replicate count '#').isPrefixOf (rest ++ following)) = true := by
        rw [Bool.and_eq_true, decide_eq_true_eq, List.isPrefixOf_iff_prefix] at notEnd ⊢
        rintro ⟨isQuote, ahead⟩
        rcases hashes_ahead ahead with own | ⟨marks, rfl⟩
        · exact notEnd ⟨isQuote, own⟩
        · rw [rawRest?_hashes] at read
          cases read
      rw [List.cons_append, rawRest?.eq_def]
      simp only [stillNotEnd, notReturn, isPlain, if_false, if_true, inductionHypothesis read]
      rfl

theorem rawQuoted?_append {quoting : Quoting} {text : List Char}
    (read : rawQuoted? quoting text = some []) (ends : beginsInWord following = false) :
    rawQuoted? quoting (text ++ following) = some following := by
  rcases Option.bind_eq_some_iff.mp read with ⟨⟨count, rest⟩, opened, read⟩
  rw [rawQuoted?, hashes?_append opened]
  exact rawRest?_append read ends

/-- The rest behind the opening mark of a quoted literal is long enough for its reader. -/
theorem quotedRest?_opened {quoting : Quoting} {rest : List Char}
    (read : quotedRest? quoting (rest.length + 1) rest = some [])
    (ends : beginsInWord following = false) :
    quotedRest? quoting ((rest ++ following).length + 1) (rest ++ following) = some following := by
  rw [List.length_append, Nat.add_right_comm]
  exact quotedRest?_append read ends

theorem quoted?_append {text : List Char} (read : quoted? text = some [])
    (ends : beginsInWord following = false) : quoted? (text ++ following) = some following := by
  fun_cases quoted? text with
  | case1 rest | case3 rest | case5 rest => exact quotedRest?_opened read ends
  | case2 rest | case4 rest | case6 rest => exact rawQuoted?_append read ends
  | case7 => simp_all [quoted?]

/-! ## Characters and bytes -/

theorem characterContent?_append {text rest : List Char}
    (read : characterContent? text = some rest) :
    characterContent? (text ++ following) = some (rest ++ following) := by
  fun_cases characterContent? text with
  | case1 behind =>
      rw [characterContent?] at read
      exact byteEscape?_append read
  | case2 behind =>
      rcases Option.map_eq_some_iff.mp read with ⟨⟨code, rest⟩, escape, rfl⟩
      simp [characterContent?, codeEscape?_append escape]
  | case3 c behind notByte notCode isShort => simp_all [characterContent?]
  | case4 | case5 | case7 => simp_all [characterContent?]
  | case6 c behind notByte notCode notShort notLone =>
      have other : c ≠ '\\' := by
        intro isEscape
        cases behind with
        | nil => exact notLone isEscape rfl
        | cons next more => exact notShort next more isEscape rfl
      simp_all [characterContent?]

theorem byteContent?_append {text rest : List Char} (read : byteContent? text = some rest) :
    byteContent? (text ++ following) = some (rest ++ following) := by
  fun_cases byteContent? text with
  | case1 behind =>
      rw [byteContent?] at read
      exact byteEscape?_append read
  | case2 c behind notByte isShort => simp_all [byteContent?]
  | case3 | case4 | case7 => simp_all [byteContent?]
  | case5 c behind notByte notShort notLone isByte =>
      have other : c ≠ '\\' := by
        intro isEscape
        cases behind with
        | nil => exact notLone isEscape rfl
        | cons next more => exact notShort next more isEscape rfl
      simp_all [byteContent?]
  | case6 c behind notByte notShort notLone noByte =>
      rw [byteContent?, if_neg noByte] at read
      · cases read
      · exact notByte
      · exact notShort
      · exact notLone

theorem closingQuote?_append {text : List Char} (read : closingQuote? text = some [])
    (ends : beginsInWord following = false) :
    closingQuote? (text ++ following) = some following := by
  fun_cases closingQuote? text with
  | case1 rest =>
      rw [List.cons_append, closingQuote?, suffixRest_append (Option.some.inj read) ends]
  | case2 => simp_all [closingQuote?]

theorem character?_append {text : List Char} (read : character? text = some [])
    (ends : beginsInWord following = false) : character? (text ++ following) = some following := by
  fun_cases character? text with
  | case1 rest =>
      rcases Option.bind_eq_some_iff.mp read with ⟨behind, content, closed⟩
      rw [List.cons_append, character?, characterContent?_append content]
      exact closingQuote?_append closed ends
  | case2 rest =>
      rcases Option.bind_eq_some_iff.mp read with ⟨behind, content, closed⟩
      rw [List.cons_append, List.cons_append, character?, byteContent?_append content]
      exact closingQuote?_append closed ends
  | case3 => simp_all [character?]

end Lexeme
end Code
end Capability
