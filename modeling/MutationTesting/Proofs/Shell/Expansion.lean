import MutationTesting.Proofs.Shell.Reading
import MutationTesting.Shell.Run

/-!
# Expanding words

A word that is made of quoted texts is one field, and the word for all arguments between double
quotes is one field for each of them. Neither is cut at separators or matched against the names of
files, so whatever the state of the shell, the fields are these texts.

* `Fields.toList_push`, `Fields.toList_addAll` — the fields that texts and arguments give
* `expandParts_spells`, `expandParts_arguments` — the expansion of a word
* `expandWords_cons`, `expandWords_spells`, `expandWords_text`, `expandWords_arguments` — the
  expansion of the first of some words
-/

namespace MutationTesting.Shell

variable {st : State} {bound : Nat} {w : Word} {ws : List Word} {cs : List Char}

/-! ## Fields -/

namespace Field

/-- Text of which every character is quoted, or none. -/
def ofText (quoted : Bool) (cs : List Char) : Field :=
  cs.map fun c => (c, quoted)

@[simp] theorem text_ofText (quoted : Bool) (cs : List Char) :
    (ofText quoted cs).text = String.ofList cs := by
  simp [ofText, text, Function.comp_def]

theorem isPattern_ofText (cs : List Char) : (ofText true cs).isPattern = false := by
  induction cs with
  | nil => rfl
  | cons c cs ih =>
    rw [ofText] at ih ⊢
    simp [isPattern, ih]

end Field

/-- A field that is no pattern stands for itself. -/
theorem fileNames_of_not_isPattern {field : Field} (h : field.isPattern = false) (st : State) :
    fileNames st field = [field.text] := by
  simp [fileNames, h]

namespace Fields

variable {f : Fields} {quoted : Bool}

theorem push_push (f : Fields) (quoted : Bool) (cs ds : List Char) :
    (f.push quoted cs).push quoted ds = f.push quoted (cs ++ ds) := by
  simp [push]

theorem pushText_quoted (f : Fields) (cs : List Char) : f.pushText true cs = f.push true cs := by
  simp [pushText]

theorem current_close (f : Fields) : f.close.current = none := by
  unfold close
  cases h : f.current <;> simp [h]

theorem toList_close (f : Fields) : f.close.toList = f.toList := by
  rw [toList, toList, close, current_close]

/-- A text behind complete fields is one more field. -/
theorem toList_push (h : f.current = none) (cs : List Char) :
    (f.push quoted cs).toList = f.toList ++ [Field.ofText quoted cs] := by
  simp [toList, close, push, h, Field.ofText]

/-- Arguments behind complete fields are one more field each: an induction on the arguments. -/
theorem toList_addAll : ∀ {f : Fields} (args : List String), f.current = none →
    (f.addAll true args).toList = f.toList ++ args.map fun arg => Field.ofText true arg.toList
  | f, [], _ => by rw [addAll, List.map_nil, List.append_nil]
  | f, [arg], h => by
    rw [addAll, add, if_pos rfl, toList_push h]
    rfl
  | f, arg :: arg' :: args, h => by
    rw [addAll, add, if_pos rfl, toList_addAll _ (current_close _), toList_close, toList_push h,
      List.append_assoc]
    · rfl
    · simp

end Fields

/-- A text is one field for a command. -/
theorem fileNames_push {f : Fields} {quoted : Bool} (hcomplete : f.complete = [])
    (hcurrent : f.current = none) (hpattern : (Field.ofText quoted cs).isPattern = false)
    (st : State) :
    (f.push quoted cs).toList.flatMap (fileNames st) = [String.ofList cs] := by
  have hnone : f.toList = [] := by simp [Fields.toList, Fields.close, hcomplete, hcurrent]
  rw [Fields.toList_push hcurrent, hnone, List.nil_append, List.flatMap_singleton,
    fileNames_of_not_isPattern hpattern, Field.text_ofText]

/-- Arguments are a field each for a command. -/
theorem fileNames_addAll {f : Fields} (hcomplete : f.complete = []) (hcurrent : f.current = none)
    (args : List String) (st : State) :
    (f.addAll true args).toList.flatMap (fileNames st) = args := by
  have hnone : f.toList = [] := by simp [Fields.toList, Fields.close, hcomplete, hcurrent]
  simp [Fields.toList_addAll args hcurrent, hnone, List.flatMap_map,
    fileNames_of_not_isPattern (Field.isPattern_ofText _)]

/-! ## Words -/

/-- No tilde is replaced in quoted text. -/
theorem replaceTildes_spells (h : Spells w cs) (st : State) (inAssignment begins : Bool) :
    replaceTildes st inAssignment begins w = w := by
  induction h generalizing begins with
  | last run => rfl
  | more run _ ih =>
    rw [replaceTildes, ih]
    simp

/-- Quoted texts are appended to the field that goes on. -/
theorem expandParts_spells (h : Spells w cs) {f : Fields} (hbound : w.length < bound) :
    expandParts bound w f st = (f.push true cs, st) := by
  induction h generalizing bound f with
  | last run =>
    match bound, hbound with
    | bound + 2, _ =>
      simp only [expandParts]
      rw [Fields.pushText_quoted]
  | more run _ ih =>
    match bound, hbound with
    | bound + 1, hbound =>
      simp only [expandParts]
      rw [Fields.pushText_quoted, ih (Nat.lt_of_succ_lt_succ hbound), Fields.push_push]

theorem expandParts_arguments {f : Fields} :
    expandParts (bound + 2) allArguments f st = (f.addAll true st.args, st) := by
  simp only [allArguments, expandParts]

/-- No words are no fields. -/
theorem expandWords_nil (mode : WordMode) (st : State) :
    expandWords (bound + 1) mode [] st = ([], st) :=
  rfl

section Words

variable {mode : WordMode} {rest : List String} (hst : st.isRunning = true)
  (hmode : mode ≠ .declaring)

include hst hmode

/-- The fields of the first word stand in front of those of the others. -/
theorem expandWords_cons {f : Fields} {fields : List String}
    (hparts : expandParts bound (replaceTildes st false true w)
      { separators := st.separators } st = (f, st))
    (hfields : f.toList.flatMap (fileNames st) = fields)
    (hrest : expandWords bound (mode.next fields) ws st = (rest, st)) :
    expandWords (bound + 1) mode (w :: ws) st = (fields ++ rest, st) := by
  subst hfields
  cases mode with
  | first => simp [expandWords, hst, hparts, hrest]
  | plain => simp [expandWords, hst, hparts, hrest]
  | declaring => exact absurd rfl hmode

/-- Quoted texts are one field. -/
theorem expandWords_spells (h : Spells w cs) (hbound : w.length < bound)
    (hrest : expandWords bound (mode.next [String.ofList cs]) ws st = (rest, st)) :
    expandWords (bound + 1) mode (w :: ws) st = (String.ofList cs :: rest, st) := by
  let f : Fields := { separators := st.separators }
  have hparts : expandParts bound (replaceTildes st false true w) f st = (f.push true cs, st) := by
    rw [replaceTildes_spells h, expandParts_spells h hbound]
  exact expandWords_cons hst hmode hparts
    (fileNames_push rfl rfl (Field.isPattern_ofText cs) st) hrest

/-- Text without quotes is one field if nothing in it has a meaning of its own. -/
theorem expandWords_text (htilde : cs.contains '~' = false)
    (hpattern : (Field.ofText false cs).isPattern = false)
    (hrest : expandWords (bound + 2) (mode.next [String.ofList cs]) ws st = (rest, st)) :
    expandWords (bound + 3) mode ([.text cs false] :: ws) st = (String.ofList cs :: rest, st) := by
  let f : Fields := { separators := st.separators }
  have hparts : expandParts (bound + 2) (replaceTildes st false true [.text cs false]) f st
      = (f.push false cs, st) := by
    simp only [replaceTildes, htilde, Bool.false_eq_true, if_false, List.append_nil, expandParts]
    rfl
  exact expandWords_cons hst hmode hparts (fileNames_push rfl rfl hpattern st) hrest

/-- All arguments between double quotes are a field each. -/
theorem expandWords_arguments
    (hrest : expandWords (bound + 2) (mode.next st.args) ws st = (rest, st)) :
    expandWords (bound + 3) mode (allArguments :: ws) st = (st.args ++ rest, st) :=
  expandWords_cons hst hmode expandParts_arguments (fileNames_addAll rfl rfl st.args st) hrest

end Words

end MutationTesting.Shell
