import TokenForest.Text.Source

/-!
# What stands between quotes

A quoted text stays on one line, because line feeds are among the characters that are escaped.
Surrogates belong to no range of printable characters, so each of them is shown by its number.
Numbers stay on one line as well.
-/

namespace TokenForest.Text

theorem toNat_ofNat
    {code : Nat}
    (valid : code.isValidChar) :
    (Char.ofNat code).toNat = code := by
  rw [Char.ofNat, dif_pos valid]
  rfl

/-- No other number makes a line feed, also none that is the number of no character. -/
theorem ofNat_ne_lineFeed
    {code : Nat}
    (other : code ≠ '\n'.toNat) :
    Char.ofNat code ≠ '\n' := by
  intro same
  by_cases valid : code.isValidChar
  · have number := toNat_ofNat valid
    rw [same] at number
    exact other number.symm
  · rw [Char.ofNat, dif_neg valid] at same
    cases same

theorem lineFeed_notMem_toDigits (number : Nat) : '\n' ∉ Nat.toDigits 10 number := by
  intro member
  cases Nat.isDigit_of_mem_toDigits (by decide) (by decide) member

theorem Hex.lineFeed_notMem_digits (width number : Nat) :
    '\n' ∉ Hex.digits width number := by
  have unbroken (digit : Nat) : '\n' ≠ Nat.digitChar digit := by
    grind [Nat.digitChar]
  have shown : '\n' ∉ Nat.toDigits 16 number := by
    induction number using Nat.strongRecOn with
    | ind number ih =>
        rw [Nat.toDigits_eq_if (by decide)]
        split
        · rw [List.mem_singleton]
          exact unbroken number
        · rename_i large
          rw [List.mem_append, List.mem_singleton, not_or]
          exact ⟨ih (number / 16) (Nat.div_lt_self (by omega) (by decide)), unbroken _⟩
  rw [Hex.digits, List.mem_append, not_or]
  refine ⟨?_, shown⟩
  intro filled
  cases List.eq_of_mem_replicate filled

namespace Quoted

theorem lineFeed_notMem_hexEscape (code : Nat) : '\n' ∉ hexEscape code := by
  have unbroken := Hex.lineFeed_notMem_digits
  rw [hexEscape]
  split
  · simp [unbroken]
  · split
    · simp [unbroken]
    · simp [unbroken]

theorem lineFeed_notMem_escape
    {quote : Char}
    (unbroken : quote ≠ '\n')
    (code : Nat) :
    '\n' ∉ escape quote code := by
  rw [escape]
  split
  · rename_i escaped
    have other : code ≠ '\n'.toNat := by
      rintro rfl
      rcases escaped with same | same
      · exact unbroken (Char.toNat_inj.mp same).symm
      · cases same
    simp [(ofNat_ne_lineFeed other).symm]
  · split
    · decide
    · rename_i other
      split
      · decide
      · split
        · decide
        · split
          · rw [List.mem_singleton]
            exact (ofNat_ne_lineFeed other).symm
          · exact lineFeed_notMem_hexEscape code

/-- Quoted text holds no line feed, whatever is quoted. -/
theorem lineFeed_notMem_ofCodePoints (codes : List Nat) :
    '\n' ∉ (ofCodePoints codes).toList := by
  have unbroken : quoteFor codes ≠ '\n' := by
    rw [quoteFor]
    split
    · decide
    · decide
  have escaped : '\n' ∉ codes.flatMap (escape (quoteFor codes)) := by
    rw [List.mem_flatMap]
    rintro ⟨code, _, here⟩
    exact lineFeed_notMem_escape unbroken code here
  simp [ofCodePoints, unbroken.symm, escaped]

theorem not_covers_of_isSurrogate
    {code : Nat}
    (surrogate : isSurrogate code = true) :
    Ranges.printable.covers code = false := by
  have apart : ∀ range ∈ Ranges.printable, range.2 < 0xD800 ∨ 0xDFFF < range.1 := by
    decide +kernel
  rw [Bool.eq_false_iff]
  intro covered
  obtain ⟨range, member, low, high⟩ := Ranges.exists_of_covers covered
  simp only [isSurrogate, Bool.and_eq_true, decide_eq_true_eq] at surrogate
  have outside := apart range member
  omega

theorem escape_of_isSurrogate
    {quote : Char} {code : Nat}
    (small : quote.toNat < 0xD800)
    (surrogate : isSurrogate code = true) :
    escape quote code = '\\' :: 'u' :: Hex.digits 4 code := by
  have unprintable := not_covers_of_isSurrogate surrogate
  simp only [isSurrogate, Bool.and_eq_true, decide_eq_true_eq] at surrogate
  have plain {character : Char} (small : character.toNat < 0xD800) :
      code ≠ character.toNat := by
    omega
  rw [escape, if_neg (not_or.mpr ⟨plain small, plain (by decide)⟩), if_neg (plain (by decide)),
    if_neg (plain (by decide)), if_neg (plain (by decide)), unprintable,
    if_neg Bool.false_ne_true, hexEscape, if_neg (by omega), if_pos (by omega)]

/-- A run of surrogates is shown number by number, each with four hexadecimal digits. -/
theorem ofCodePoints_of_surrogates
    {codes : List Nat}
    (surrogates : ∀ code ∈ codes, isSurrogate code = true) :
    ofCodePoints codes =
      String.ofList
        ('\'' :: codes.flatMap (fun code => '\\' :: 'u' :: Hex.digits 4 code) ++ ['\'']) := by
  have absent : codes.contains '\''.toNat = false := by
    rw [Bool.eq_false_iff, Ne, List.contains_iff_mem]
    intro member
    cases surrogates _ member
  have quote : quoteFor codes = '\'' := by
    rw [quoteFor, absent]
    rfl
  have escaped : codes.flatMap (escape '\'') =
      codes.flatMap fun code => '\\' :: 'u' :: Hex.digits 4 code := by
    rw [List.flatMap_def, List.flatMap_def]
    congr 1
    apply List.map_congr_left
    intro code member
    exact escape_of_isSurrogate (by decide) (surrogates code member)
  rw [ofCodePoints, quote, escaped]

end Quoted

end TokenForest.Text
