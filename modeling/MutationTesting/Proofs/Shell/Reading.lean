import Mathlib.Data.List.Basic
import MutationTesting.Proofs.Text.Marks
import MutationTesting.Shell.Command

/-!
# Reading words and lines

What the readers of the shell make of what is in front. A word in single quotes is read to the next
single quote, whatever stands in between; a backslash outside quotes keeps the character behind it.

* `Spells` — the words whose parts are all quoted text
* `scanParts_end`, `scanParts_single`, `scanParts_escaped`, `scanParts_plain` — one part of a word
* `tokenize_blank`, `tokenize_comment`, `tokenize_newline` — what stands between words
* `tokenize_word`, `tokenize_plain`, `tokenize_arguments` — words as tokens
-/

namespace MutationTesting.Shell

/-- A word is made of quoted texts only, and these are the characters that it spells. -/
inductive Spells : Word → List Char → Prop where
  /-- One text. -/
  | last (run : List Char) : Spells [.text run true] run
  /-- A text in front of others. -/
  | more (run : List Char) {w : Word} {cs : List Char} (h : Spells w cs) :
    Spells (.text run true :: w) (run ++ cs)

theorem Spells.scriptsOf_eq {w : Word} {cs : List Char} (h : Spells w cs) : scriptsOf w = [] := by
  induction h with
  | last run => rfl
  | more run _ ih => exact ih

variable {check : Check} {lastLine bound : Nat} {marks : List DocumentMark} {c : Char}
  {w more : Word} {run rest rest' rest'' : List Char}

/-! ## Parts -/

/-- A single quote ends what stands between single quotes, and nothing else does. -/
theorem scanSingle_append (h : '\'' ∉ run) (rest : List Char) :
    scanSingle (run ++ '\'' :: rest) = .ok (run, rest) := by
  induction run with
  | nil => simp [scanSingle]
  | cons c run ih =>
    obtain ⟨hc, hrun⟩ := not_or.mp (mt List.mem_cons.mpr h)
    rw [List.cons_append, scanSingle, if_neg (Ne.symm hc), ih hrun]
    rfl

/-- A word ends in front of a blank, an operator or the end of the line. -/
theorem scanParts_end (hc : endsWord c = true) (rest : List Char) :
    scanParts .word lastLine (bound + 1) (c :: rest) = .ok ([], c :: rest) := by
  simp only [endsWord, isBlank, Bool.or_eq_true, beq_iff_eq, or_assoc] at hc
  rcases hc with rfl | rfl | rfl | rfl | rfl | rfl | rfl | rfl | rfl | rfl <;> rfl

/-- What stands between single quotes is one part. -/
theorem scanParts_single (hrun : '\'' ∉ run)
    (hmore : scanParts .word lastLine bound rest = .ok (more, rest')) :
    scanParts .word lastLine (bound + 1) ('\'' :: (run ++ '\'' :: rest))
      = .ok (.text run true :: more, rest') := by
  show (scanSingle (run ++ '\'' :: rest) >>= fun p =>
    scanParts .word lastLine bound p.2 >>= fun q => pure ([Part.text p.1 true] ++ q.1, q.2)) = _
  rw [scanSingle_append hrun]
  show (scanParts .word lastLine bound rest >>= fun q => _) = _
  rw [hmore]
  rfl

/-- A character behind a backslash is one part, unless it ends the line. -/
theorem scanParts_escaped (hc : c ≠ '\n')
    (hmore : scanParts .word lastLine bound rest = .ok (more, rest')) :
    scanParts .word lastLine (bound + 1) ('\\' :: c :: rest)
      = .ok (.text [c] true :: more, rest') := by
  have hkept : Setting.word.isEscapable c = true := by simp [Setting.isEscapable]
  rw [scanParts.eq_def]
  -- a backslash in front of the end of the line is ruled out by `hc`
  simp only
  rw [hmore, if_pos hkept]
  rfl

/-- A character that stands for itself begins a part with those behind it that do so. -/
theorem scanParts_cons (hc : Setting.word.isPlain c = true) :
    scanParts .word lastLine (bound + 1) (c :: rest)
      = (scanParts .word lastLine bound
          ((c :: rest).drop ((c :: rest).takeWhile Setting.word.isPlain).length) >>= fun q =>
        pure (.text ((c :: rest).takeWhile Setting.word.isPlain) false :: q.1, q.2)) := by
  obtain ⟨hback, hdollar, hquote⟩ : c ≠ '\\' ∧ c ≠ '$' ∧ c ≠ '`' := by
    simp only [Setting.isPlain, Bool.and_eq_true, bne_iff_ne, and_assoc] at hc
    exact ⟨hc.1, hc.2.1, hc.2.2.1⟩
  rw [scanParts.eq_def]
  simp only
  split
  case h_7 h =>
    cases h
    rw [if_pos hc]
    rfl
  -- the parts that begin in another way
  all_goals cases ‹_ :: _ = _› <;> contradiction

/-- Characters that stand for themselves are one part. -/
theorem scanParts_plain (hplain : run.all Setting.word.isPlain = true) (hrun : run ≠ [])
    (hc : endsWord c = true) :
    scanParts .word lastLine (bound + 2) (run ++ c :: rest)
      = .ok ([.text run false], c :: rest) := by
  have hcut : (run ++ c :: rest).takeWhile Setting.word.isPlain = run := by
    rw [List.takeWhile_append_of_pos (List.all_eq_true.mp hplain),
      List.takeWhile_cons_of_neg (by simp [Setting.isPlain, hc]), List.append_nil]
  obtain ⟨d, front, rfl⟩ := List.exists_cons_of_ne_nil hrun
  rw [List.cons_append, scanParts_cons (List.all_eq_true.mp hplain d List.mem_cons_self),
    ← List.cons_append, hcut, List.drop_left, scanParts_end hc]
  rfl

/-- The word for all arguments between double quotes. -/
def allArguments : Word :=
  [.parameter ['@'] .plain true]

theorem scanParts_arguments (hc : endsWord c = true) :
    scanParts .word lastLine (bound + 4) ("\"$@\"".toList ++ c :: rest)
      = .ok (allArguments, c :: rest) := by
  show (scanParts .word lastLine (bound + 3) (c :: rest) >>= fun q =>
    pure (allArguments ++ q.1, q.2)) = _
  rw [scanParts_end hc]
  rfl

/-! ## Tokens -/

theorem descriptor?_of_not_isDigit (hc : c.isDigit = false) (rest : List Char) :
    descriptor? (c :: rest) = none := by
  cases rest with
  | nil => rfl
  | cons d rest => simp [descriptor?, hc]

theorem operator?_of_not_endsWord (hc : endsWord c = false) (rest : List Char) :
    operator? (c :: rest) = none := by
  unfold operator?
  split
  case h_16 => rfl
  -- every operator begins with a character that ends a word
  all_goals
    cases ‹_ :: _ = _›
    cases hc

/-- A blank is skipped. -/
theorem tokenize_blank (hc : isBlank c = true) :
    tokenize check lastLine (bound + 1) marks (c :: rest)
      = tokenize check lastLine bound marks rest := by
  simp only [isBlank, Bool.or_eq_true, beq_iff_eq] at hc
  rcases hc with rfl | rfl <;> rfl

/-- A comment is skipped up to the end of its line. -/
theorem tokenize_comment (hrun : '\n' ∉ run) :
    tokenize check lastLine (bound + 1) marks ('#' :: (run ++ '\n' :: rest))
      = tokenize check lastLine bound marks ('\n' :: rest) := by
  show tokenize check lastLine bound marks ((run ++ '\n' :: rest).dropWhile (· != '\n')) = _
  rw [List.dropWhile_append_of_pos (bne_of_not_mem hrun), List.dropWhile_cons_of_neg (by simp)]

/-- The end of a line that asked for no document is a token. -/
theorem tokenize_newline :
    tokenize check lastLine (bound + 1) [] ('\n' :: rest)
      = ((.newline, lastLine - rest.count '\n') :: (tokenize check lastLine bound [] rest).1, []) :=
  rfl

/-- A word without scripts inside it is a token. -/
theorem tokenize_word (hend : endsWord c = false) (hdigit : c.isDigit = false) (hback : c ≠ '\\')
    (hcomment : c ≠ '#') (hscan : scanWordBefore lastLine (c :: rest) = .ok (w, rest'))
    (hscripts : scriptsOf w = []) :
    tokenize check lastLine (bound + 1) marks (c :: rest)
      = ((.word w, lastLine - rest'.count '\n') :: (tokenize check lastLine bound marks rest').1,
        (tokenize check lastLine bound marks rest').2) := by
  have hblank : isBlank c = false := by
    rw [endsWord] at hend
    simp_all only [Bool.or_eq_false_iff]
  obtain ⟨hline, hless⟩ : c ≠ '\n' ∧ c ≠ '<' := by
    constructor <;> rintro rfl <;> cases hend
  rw [tokenize.eq_def]
  simp only
  split
  case h_6 h =>
    cases h
    simp [hblank, descriptor?_of_not_isDigit hdigit, operator?_of_not_endsWord hend, hscan,
      hscripts]
  -- the tokens that begin in another way
  all_goals cases ‹_ :: _ = _› <;> contradiction

/-- Characters that stand for themselves are a token, unless the first of them is a digit or begins
a comment. -/
theorem tokenize_plain (hplain : run.all Setting.word.isPlain = true)
    (hhead : run.head?.any (fun d => !d.isDigit && d != '#') = true) (hc : endsWord c = true) :
    tokenize check lastLine (bound + 1) marks (run ++ c :: rest)
      = ((.word [.text run false], lastLine - (c :: rest).count '\n')
          :: (tokenize check lastLine bound marks (c :: rest)).1,
        (tokenize check lastLine bound marks (c :: rest)).2) := by
  cases run with
  | nil => cases hhead
  | cons d run =>
    have hd := List.all_eq_true.mp hplain d List.mem_cons_self
    obtain ⟨hdigit, hcomment⟩ : d.isDigit = false ∧ d ≠ '#' := by simpa using hhead
    have hback : d ≠ '\\' := by simp_all [Setting.isPlain]
    have hbegins : endsWord d = false := by simp_all [Setting.isPlain]
    exact tokenize_word hbegins hdigit hback hcomment
      (scanParts_plain hplain (List.cons_ne_nil _ _) hc) rfl

/-- The word for all arguments is a token. -/
theorem tokenize_arguments (hc : endsWord c = true) :
    tokenize check lastLine (bound + 1) marks ("\"$@\"".toList ++ c :: rest)
      = ((.word allArguments, lastLine - (c :: rest).count '\n')
          :: (tokenize check lastLine bound marks (c :: rest)).1,
        (tokenize check lastLine bound marks (c :: rest)).2) :=
  tokenize_word rfl rfl (by decide) (by decide) (scanParts_arguments hc) rfl

end MutationTesting.Shell
