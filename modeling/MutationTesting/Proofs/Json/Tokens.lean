import MutationTesting.Json.Printer
import MutationTesting.Json.Reader

/-!
# Reading printed tokens

Texts and integers are read as what they were printed from, whatever follows them; only behind an
integer there must be nothing that could go on with the number.

* `Json.scanText_quote` — the pieces of a printed text
* `Json.readNumber_integer` — a printed integer
-/

namespace MutationTesting.Json

/-! ## Blanks -/

theorem skipBlanks_append {blanks cs : List Char} (h : ∀ c ∈ blanks, isBlank c = true) :
    skipBlanks (blanks ++ cs) = skipBlanks cs :=
  List.dropWhile_append_of_pos h

theorem skipBlanks_cons {c : Char} {cs : List Char} (h : isBlank c = false) :
    skipBlanks (c :: cs) = c :: cs := by
  rw [skipBlanks, List.dropWhile_cons_of_neg (by simp [h])]

theorem isBlank_of_mem_lineBreak {layout : Layout} {level : Nat} {c : Char}
    (h : c ∈ layout.lineBreak level) : isBlank c = true := by
  cases layout with
  | compact => cases h
  | pretty =>
    rcases List.mem_cons.mp h with rfl | h
    · rfl
    · obtain ⟨-, rfl⟩ := List.mem_replicate.mp h
      rfl

@[simp] theorem skipBlanks_lineBreak (layout : Layout) (level : Nat) (cs : List Char) :
    skipBlanks (layout.lineBreak level ++ cs) = skipBlanks cs :=
  skipBlanks_append fun _ => isBlank_of_mem_lineBreak

/-! ## Texts -/

theorem hexValue?_hexDigit (n : Nat) : hexValue? (hexDigit n) = some (n % 16) := by
  have hall : ∀ k < 16, hexValue? k.digitChar = some k := by decide
  exact hall _ (Nat.mod_lt _ (by decide))

/-- A written character is read as one piece. -/
theorem scanText_escapeChar (c : Char) (cs : List Char) :
    scanText (escapeChar c ++ cs) = (scanText cs).map fun (units, rest) => (.char c :: units, rest) := by
  have hplain : ∀ {e d : Char}, simpleEscape? e = some d → e ≠ 'u' →
      scanText ('\\' :: e :: cs) = (scanText cs).map fun (units, rest) => (.char d :: units, rest) := by
    intro e d hd hu
    rw [scanText]
    · rw [hd]
      cases scanText cs <;> rfl
    · rintro a b c d rest rfl
      exact absurd rfl hu
  unfold escapeChar
  -- the characters with an escape of their own
  iterate 7
    split
    · next h =>
      subst h
      exact hplain rfl (by decide)
  split
  · next hlow =>
    -- a control character is given by its code
    have hcode : hex4? '0' '0' (hexDigit (c.toNat / 16)) (hexDigit c.toNat) = some c.toNat := by
      simp only [hex4?, hexValue?_hexDigit, show hexValue? '0' = some 0 from rfl]
      simp
      omega
    have hunit : TextUnit.ofCode c.toNat = .char c := by
      rw [TextUnit.ofCode, if_neg (by omega), if_neg (by omega), Char.ofNat_toNat]
    show scanText ('\\' :: 'u' :: '0' :: '0' :: _ :: _ :: cs) = _
    rw [scanText, hcode]
    show (scanText cs >>= fun x => some (TextUnit.ofCode c.toNat :: x.1, x.2)) = _
    rw [hunit]
    cases scanText cs <;> rfl
  · next hquote hslash _ _ _ _ _ hlow =>
    show scanText (c :: cs) = _
    rw [scanText, if_neg hlow]
    · cases scanText cs <;> rfl
    · exact hquote
    · rintro a b c d rest rfl
      exact absurd rfl hslash
    · rintro e rest rfl
      exact absurd rfl hslash

theorem scanText_flatMap (text rest : List Char) :
    scanText (text.flatMap escapeChar ++ '"' :: rest) = some (text.map .char, rest) := by
  induction text with
  | nil => rw [List.flatMap_nil, List.nil_append, scanText, List.map_nil]
  | cons c text ih =>
    rw [List.flatMap_cons, List.append_assoc, scanText_escapeChar, ih, Option.map_some,
      List.map_cons]

theorem textOf_map_char (text : String) : textOf (text.toList.map .char) = some text := by
  have hjoin : ∀ cs : List Char, joinUnits (cs.map .char) = some cs := by
    intro cs
    induction cs with
    | nil => rfl
    | cons c cs ih => rw [List.map_cons, joinUnits, ih, Option.map_some]
  rw [textOf, hjoin, Option.map_some, String.ofList_toList]

/-- **A printed text is read as the pieces that denote it.** -/
theorem scanText_quote (text : String) (rest : List Char) :
    ∃ units, quote text ++ rest = '"' :: (text.toList.flatMap escapeChar ++ '"' :: rest) ∧
      scanText (text.toList.flatMap escapeChar ++ '"' :: rest) = some (units, rest) ∧
      textOf units = some text :=
  ⟨_, by simp [quote], scanText_flatMap text.toList rest, textOf_map_char text⟩

/-! ## Integers -/

/-- A text that does not go on with a number. -/
def EndsNumber (rest : List Char) : Prop :=
  ∀ c ∈ rest.head?, c.isDigit = false ∧ c ≠ '.' ∧ c ≠ 'e' ∧ c ≠ 'E'

theorem endsNumber_nil : EndsNumber [] := by
  simp [EndsNumber]

theorem endsNumber_cons {c : Char} {cs : List Char} :
    EndsNumber (c :: cs) ↔ c.isDigit = false ∧ c ≠ '.' ∧ c ≠ 'e' ∧ c ≠ 'E' := by
  simp [EndsNumber]

/-- The digits of a positive number do not begin with a zero. -/
theorem head?_toDigits_ne {n : Nat} (h : 0 < n) : (Nat.toDigits 10 n).head? ≠ some '0' := by
  induction n using Nat.strongRecOn with
  | ind n ih =>
    rw [Nat.toDigits_eq_if (by decide)]
    split
    · next hlt =>
      have hall : ∀ k < 10, 0 < k → [k.digitChar].head? ≠ some '0' := by decide
      exact hall n hlt h
    · next hge =>
      have hpos : 0 < n / 10 := by omega
      obtain ⟨d, ds, hds⟩ := List.exists_cons_of_ne_nil (Nat.toDigits_ne_nil (n := n / 10))
      have hhead := ih (n / 10) (by omega) hpos
      rwa [hds] at hhead ⊢

theorem spanDigits_toDigits (n : Nat) {rest : List Char} (h : EndsNumber rest) :
    spanDigits (Nat.toDigits 10 n ++ rest) = (Nat.toDigits 10 n, rest) := by
  have hdigits : ∀ c ∈ Nat.toDigits 10 n, c.isDigit = true :=
    fun c hc => Nat.isDigit_of_mem_toDigits (by decide) (by decide) hc
  have hrest : rest.takeWhile Char.isDigit = [] ∧ rest.dropWhile Char.isDigit = rest := by
    cases rest with
    | nil => exact ⟨rfl, rfl⟩
    | cons c cs => simp [(endsNumber_cons.mp h).1]
  rw [spanDigits, List.takeWhile_append_of_pos hdigits, List.dropWhile_append_of_pos hdigits,
    hrest.1, hrest.2, List.append_nil]

theorem scanFraction_of_endsNumber {rest : List Char} (h : EndsNumber rest) :
    scanFraction rest = some ([], rest) := by
  unfold scanFraction
  split
  · exact absurd rfl (endsNumber_cons.mp h).2.1
  · rfl

theorem scanExponent_of_endsNumber {rest : List Char} (h : EndsNumber rest) :
    scanExponent rest = some (none, rest) := by
  cases rest with
  | nil => rfl
  | cons c cs =>
    obtain ⟨-, -, he, hE⟩ := endsNumber_cons.mp h
    simp [scanExponent, he, hE]

/-- The digits of a number are read as that number; `-0` would not be an integer. -/
theorem scanMagnitude_toDigits {negative : Bool} {n : Nat} (hzero : negative = true → n ≠ 0)
    {rest : List Char} (h : EndsNumber rest) :
    scanMagnitude negative (Nat.toDigits 10 n ++ rest)
      = some (.int (if negative then -n else n), rest) := by
  have hone : ((Nat.toDigits 10 n).head? == some '0' && (Nat.toDigits 10 n).length != 1) = false := by
    rcases Nat.eq_zero_or_pos n with rfl | hpos
    · rfl
    · rw [beq_eq_false_iff_ne.mpr (head?_toDigits_ne hpos), Bool.false_and]
  have hempty : (Nat.toDigits 10 n).isEmpty = false := by
    simp [Nat.toDigits_ne_nil]
  have hsign : (negative && n == 0) = false := by
    cases negative with
    | false => rfl
    | true => simpa using hzero rfl
  unfold scanMagnitude
  simp [spanDigits_toDigits n h, hempty, hone, scanFraction_of_endsNumber h,
    scanExponent_of_endsNumber h, Nat.ofDigitChars_ten_toDigits, hsign]

/-- **A printed integer is read as itself, if the number does not go on.** -/
theorem readNumber_integer (n : Int) {rest : List Char} (h : EndsNumber rest) :
    readNumber (integer n ++ rest) = some (.int n, rest) := by
  unfold integer
  split
  · next hn =>
    have hread : readNumber (Nat.toDigits 10 n.toNat ++ rest)
        = scanMagnitude false (Nat.toDigits 10 n.toNat ++ rest) := by
      unfold readNumber
      split
      · next tail heq =>
        -- a digit is no sign
        obtain ⟨d, ds, hds⟩ := List.exists_cons_of_ne_nil (Nat.toDigits_ne_nil (n := n.toNat))
        have hdigit := Nat.isDigit_of_mem_toDigits (b := 10) (n := n.toNat) (c := d) (by decide)
          (by decide) (by rw [hds]; exact List.mem_cons_self)
        rw [hds, List.cons_append, List.cons.injEq] at heq
        rw [heq.1] at hdigit
        exact absurd hdigit (by decide)
      · rfl
    rw [hread, scanMagnitude_toDigits (by simp) h]
    have hself : (n.toNat : Int) = n := Int.toNat_of_nonneg hn
    simp only [Bool.false_eq_true, if_false, hself]
  · next hn =>
    show scanMagnitude true (Nat.toDigits 10 (-n).toNat ++ rest) = _
    rw [scanMagnitude_toDigits (fun _ => by omega) h]
    have hneg : ((-n).toNat : Int) = -n := Int.toNat_of_nonneg (by omega)
    simp only [if_true, hneg, Int.neg_neg]

end MutationTesting.Json
