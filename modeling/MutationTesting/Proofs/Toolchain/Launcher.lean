import MutationTesting.Proofs.Shell.Expansion
import MutationTesting.Proofs.Text.Octets
import MutationTesting.Toolchain.Launcher

/-!
# What a launcher starts

A quoted path is read by the shell as one word that spells the path: each stretch without single
quotes is a part of it, and so is each single quote, which stands outside of quotes behind a
backslash. So the words of a launcher are the same fields for every shell that runs it.

* `scanParts_quote` — the word that a quoted text is read as
* `ofText_script`, `tokens_script` — what the shell reads
* `expandWords_words` — what it makes of the words that it has read
* `passes_paths` — **a launcher starts the program with the paths as they are**
-/

namespace MutationTesting.Launcher

open Shell

variable {check : Check} {lastLine bound : Nat} {marks : List DocumentMark} {c : Char}
  {front text rest : List Char}

/-! ## Quoting -/

theorem flatMap_quoteChar (h : '\'' ∉ text) : text.flatMap quoteChar = text := by
  induction text with
  | nil => rfl
  | cons c text ih =>
    obtain ⟨hc, htext⟩ := not_or.mp (mt List.mem_cons.mpr h)
    rw [List.flatMap_cons, ih htext, quoteChar, if_neg (Ne.symm hc), List.singleton_append]

/-- A text without single quotes stands between two of them. -/
theorem quote_of_not_mem (h : '\'' ∉ text) (rest : List Char) :
    quote text ++ rest = '\'' :: (text ++ '\'' :: rest) := by
  simp [quote, flatMap_quoteChar h]

/-- The first single quote of a text ends the quotes, is escaped, and opens others. -/
theorem quote_append (h : '\'' ∉ front) (back rest : List Char) :
    quote (front ++ '\'' :: back) ++ rest
      = '\'' :: (front ++ '\'' :: '\\' :: '\'' :: (quote back ++ rest)) := by
  simp [quote, flatMap_quoteChar h, quoteChar]

/-- The octets of a quoted text are its octets quoted: no other character has a single quote among
its octets. -/
theorem flatMap_encode_quote (text : List Char) :
    (quote text).flatMap Octets.encode = quote (text.flatMap Octets.encode) := by
  have hmark : Octets.encode '\'' = ['\''] := Octets.encode_of_ascii (by decide)
  have hchar (c : Char) :
      (quoteChar c).flatMap Octets.encode = (Octets.encode c).flatMap quoteChar := by
    by_cases hc : c = '\''
    · rw [hc, hmark, quoteChar, if_pos rfl, List.flatMap_singleton, quoteChar, if_pos rfl]
      exact Octets.flatMap_encode_of_ascii (by simp)
    · rw [quoteChar, if_neg hc, List.flatMap_singleton, flatMap_quoteChar]
      exact mt (Octets.mem_encode_iff (by decide) c).mp hc
  simp only [quote, List.flatMap_append, List.flatMap_cons, List.flatMap_nil, List.append_nil,
    List.flatMap_assoc, hchar, hmark, List.singleton_append]

theorem length_lt_length_quote (text : List Char) : text.length < (quote text).length := by
  have hle : text.length ≤ (text.flatMap quoteChar).length := by
    induction text with
    | nil => simp
    | cons c text ih =>
      have hchar : 1 ≤ (quoteChar c).length := by unfold quoteChar; split <;> simp
      rw [List.flatMap_cons, List.length_append, List.length_cons]
      omega
  rw [quote, List.length_append, List.length_cons]
  omega

/-- **A quoted text is one word that spells it.** The induction goes from single quote to single
quote. -/
theorem scanParts_quote (lastLine : Nat) (hc : endsWord c = true) (rest text : List Char)
    {bound : Nat} (hbound : 2 * text.length + 2 ≤ bound) :
    ∃ w, Spells w text ∧ w.length ≤ 2 * text.length + 1 ∧
      scanParts .word lastLine bound (quote text ++ c :: rest) = .ok (w, c :: rest) := by
  induction text using mark_induction '\'' generalizing bound with
  | plain text h =>
    obtain ⟨bound, rfl⟩ := Nat.exists_eq_add_of_le' (show 2 ≤ bound by omega)
    refine ⟨_, .last text, by simp, ?_⟩
    rw [quote_of_not_mem h]
    exact scanParts_single h (scanParts_end hc rest)
  | marked front back hfront ih =>
    rw [List.length_append, List.length_cons] at hbound ⊢
    obtain ⟨bound, rfl⟩ := Nat.exists_eq_add_of_le' (show 2 ≤ bound by omega)
    obtain ⟨w, hw, hlength, hscan⟩ := ih (show 2 * back.length + 2 ≤ bound by omega)
    refine ⟨_, .more front (.more ['\''] hw), ?_, ?_⟩
    · rw [List.length_cons, List.length_cons]
      omega
    · -- the quotes are left for the single quote and entered again for what is behind it
      rw [quote_append hfront]
      exact scanParts_single hfront (scanParts_escaped (by decide) hscan)

/-- A quoted text is one token. -/
theorem tokenize_quote (hc : endsWord c = true) (rest text : List Char) :
    ∃ w, Spells w text ∧ w.length ≤ 2 * text.length + 1 ∧ ∀ bound,
      tokenize check lastLine (bound + 1) marks (quote text ++ c :: rest)
        = ((.word w, lastLine - (c :: rest).count '\n')
            :: (tokenize check lastLine bound marks (c :: rest)).1,
          (tokenize check lastLine bound marks (c :: rest)).2) := by
  have hbound : 2 * text.length + 2 ≤ readingBound (quote text ++ c :: rest) := by
    have hlength := length_lt_length_quote text
    rw [readingBound, List.length_append]
    omega
  obtain ⟨w, hw, hwlength, hscan⟩ := scanParts_quote lastLine hc rest text hbound
  exact ⟨w, hw, hwlength, fun bound =>
    tokenize_word rfl rfl (by decide) (by decide) hscan hw.scriptsOf_eq⟩

/-! ## The script -/

theorem toList_script (runner image : String) :
    (script runner image).toList = '#' :: ("!/bin/sh".toList ++ '\n' :: ("exec".toList ++ ' ' ::
      (quote runner.toList ++ ' ' :: ("exec-image".toList ++ ' ' ::
        (quote image.toList ++ ' ' :: ("\"$@\"".toList ++ '\n' :: [])))))) := by
  have hshebang : "#!/bin/sh\n".toList = '#' :: ("!/bin/sh".toList ++ ['\n']) := by simp
  have hexec : "exec ".toList = "exec".toList ++ [' '] := by simp
  have hcommand : " exec-image ".toList = ' ' :: ("exec-image".toList ++ [' ']) := by simp
  have harguments : " \"$@\"".toList = ' ' :: "\"$@\"".toList := by simp
  have hend : "\n".toList = ['\n'] := by simp
  unfold script commandLine
  simp only [String.toList_ofList, hshebang, hexec, hcommand, harguments, hend, List.append_assoc,
    List.cons_append, List.nil_append]

/-- The octets of a launcher are the launcher of the octets of its paths. -/
theorem ofText_script (runner image : String) :
    Octets.ofText (script runner image)
      = script (Octets.ofText runner) (Octets.ofText image) := by
  have hascii (text : String) (h : text.toList.all (·.toNat < 128) = true) :
      text.toList.flatMap Octets.encode = text.toList :=
    Octets.flatMap_encode_of_ascii (by simpa using h)
  rw [← String.toList_inj, Octets.toList_ofText]
  unfold script commandLine
  simp only [String.toList_ofList, List.flatMap_append, flatMap_encode_quote, Octets.toList_ofText]
  rw [hascii "#!/bin/sh\n" (by decide), hascii "exec " (by decide),
    hascii " exec-image " (by decide), hascii " \"$@\"" (by decide), hascii "\n" (by decide)]

/-- The words of the command of a launcher, two of which stand for its paths. -/
def words (program file : Word) : List Word :=
  [[.text "exec".toList false], program, [.text "exec-image".toList false], file, allArguments]

/-- The tokens of a launcher are the words of its command, on the second line. -/
theorem tokens_script (runner image : String) :
    ∃ program file, Spells program runner.toList ∧ program.length ≤ 2 * runner.length + 1 ∧
      Spells file image.toList ∧ file.length ≤ 2 * image.length + 1 ∧
      (checkedTokens (script runner image).toList).map (·.1)
        = .newline :: ((words program file).map .word ++ [.newline, .finish]) := by
  obtain ⟨bound, hbound⟩ : ∃ n, (script runner image).toList.length + 1 = n + 13 := by
    refine Nat.exists_eq_add_of_le' ?_
    rw [toList_script]
    simp
  rw [checkedTokens, tokensFrom, hbound]
  generalize nestedFault? (script runner image).toList.length = check
  generalize 1 + (script runner image).toList.count '\n' = lastLine
  rw [toList_script, tokenize_comment (by decide), tokenize_newline,
    tokenize_plain rfl rfl rfl, tokenize_blank rfl]
  obtain ⟨program, hprogram, hprogramLength, hprogramToken⟩ := tokenize_quote (c := ' ') rfl _ _
  obtain ⟨file, hfile, hfileLength, hfileToken⟩ := tokenize_quote (c := ' ') rfl _ _
  refine ⟨program, file, hprogram, hprogramLength, hfile, hfileLength, ?_⟩
  -- a word and a blank in turn, each of which takes one off the bound
  rw [hprogramToken, tokenize_blank rfl, tokenize_plain rfl rfl rfl, tokenize_blank rfl,
    hfileToken, tokenize_blank rfl, tokenize_arguments rfl, tokenize_newline]
  rfl

/-- The words of a launcher are expanded to their texts, and the arguments follow. -/
theorem expandWords_words {program file : Word} {runner image : String}
    (hprogram : Spells program runner.toList) (hfile : Spells file image.toList) {st : State}
    (hst : st.isRunning = true) (hprogramLength : program.length < bound + 5)
    (hfileLength : file.length < bound + 3) :
    expandWords (bound + 7) .first (words program file) st
      = ("exec" :: runner :: "exec-image" :: image :: st.args, st) := by
  have hplain : WordMode.plain ≠ .declaring := by simp
  have hnext : WordMode.first.next [String.ofList "exec".toList] = .plain := by
    simp [WordMode.next]
  -- from the last word to the first, since what is behind a word is expanded after it
  have harguments : expandWords (bound + 3) .plain [allArguments] st = (st.args, st) := by
    simpa using expandWords_arguments hst hplain (expandWords_nil _ st)
  have himage : expandWords (bound + 4) .plain [file, allArguments] st
      = (image :: st.args, st) := by
    simpa using expandWords_spells hst hplain hfile hfileLength harguments
  have hcommand : expandWords (bound + 5) .plain
      [[.text "exec-image".toList false], file, allArguments] st
        = ("exec-image" :: image :: st.args, st) :=
    expandWords_text hst hplain (by decide) (by decide) himage
  have hrunner : expandWords (bound + 6) .plain
      [program, [.text "exec-image".toList false], file, allArguments] st
        = (runner :: "exec-image" :: image :: st.args, st) := by
    simpa using expandWords_spells hst hplain hprogram hprogramLength hcommand
  exact expandWords_text hst (by simp) (by decide) (by decide) (hnext ▸ hrunner)

/-- **A launcher starts the program with the paths as they are,** whatever characters they hold. The
shell reads octets, and those of a launcher are the launcher of the octets of its paths. What it
reads is one line of words, and in every state it expands them to exactly `exec`, the path of the
program, `exec-image`, the path of the image, and its own arguments. -/
theorem passes_paths (runner image : String) :
    Octets.ofText (script runner image)
      = script (Octets.ofText runner) (Octets.ofText image) ∧
    ∃ words : List Word,
      (checkedTokens (script runner image).toList).map (·.1)
        = .newline :: (words.map .word ++ [.newline, .finish]) ∧
      ∀ (st : State) (bound : Nat), st.isRunning = true →
        2 * (runner.length + image.length) + 8 ≤ bound →
        expandWords bound .first words st
          = ("exec" :: runner :: "exec-image" :: image :: st.args, st) := by
  obtain ⟨program, file, hprogram, hprogramLength, hfile, hfileLength, htokens⟩ :=
    tokens_script runner image
  refine ⟨ofText_script runner image, _, htokens, fun st bound hst hbound => ?_⟩
  obtain ⟨bound, rfl⟩ := Nat.exists_eq_add_of_le' (show 7 ≤ bound by omega)
  exact expandWords_words hprogram hfile hst (by omega) (by omega)

/-- A shell with two arguments. -/
def started : State :=
  { disk := {}, vars := [], exported := [], name := "tests", args := ["7", "a b"], limit := 0 }

/-- Quotes at the end and in a row, a dollar sign, blanks, a backslash and the end of a line. -/
theorem passes_quotes :
    ∃ words : List Word,
      (checkedTokens (script "/it's $HOME''" "'\\ *\n").toList).map (·.1)
        = .newline :: (words.map .word ++ [.newline, .finish]) ∧
      expandWords 60 .first words started
        = (["exec", "/it's $HOME''", "exec-image", "'\\ *\n", "7", "a b"], started) := by
  obtain ⟨-, words, htokens, hfields⟩ := passes_paths "/it's $HOME''" "'\\ *\n"
  exact ⟨words, htokens, hfields started 60 rfl (by decide)⟩

end MutationTesting.Launcher
