import MutationTesting.Proofs.Json.Tokens

/-!
# Reading printed values

Reading takes back printing, in both layouts, for all values without decimals. (A decimal may be
printed in another form than the one in which it is kept.) The reader of nested values carries a
bound; the length of the printed text is enough, since each item and each level of nesting has a
character of its own.

* `Json.readValue_printAt` — a printed value, whatever follows it
* `Json.read?_print` — **reading takes back printing**
-/

namespace MutationTesting.Json

/-! ## Values without decimals -/

mutual

/-- The value has no decimals in it. -/
def IsExact : Json → Prop
  | .decimal _ _ => False
  | .arr items => AreExact items
  | .obj members => MembersExact members
  | _ => True

/-- None of the items has a decimal in it. -/
def AreExact : List Json → Prop
  | [] => True
  | item :: items => IsExact item ∧ AreExact items

/-- None of the members has a decimal in it. -/
def MembersExact : List (Option String × Json) → Prop
  | [] => True
  | (_, value) :: members => IsExact value ∧ MembersExact members

end

/-! ## The first characters of values -/

/-- A number begins with a sign or a digit. -/
theorem integer_eq_cons (n : Int) :
    ∃ c cs, integer n = c :: cs ∧ (c = '-' ∨ c.isDigit = true) := by
  unfold integer
  split
  · obtain ⟨d, ds, hds⟩ := List.exists_cons_of_ne_nil (Nat.toDigits_ne_nil (n := n.toNat))
    have hmem : d ∈ Nat.toDigits 10 n.toNat := by
      rw [hds]
      exact List.mem_cons_self
    exact ⟨d, ds, hds, Or.inr (Nat.isDigit_of_mem_toDigits (by decide) (by decide) hmem)⟩
  · exact ⟨'-', _, rfl, Or.inl rfl⟩

theorem isBlank_of_number {c : Char} (h : c = '-' ∨ c.isDigit = true) : isBlank c = false := by
  unfold isBlank
  simp only [Bool.or_eq_false_iff, beq_eq_false_iff_ne]
  refine ⟨⟨⟨?_, ?_⟩, ?_⟩, ?_⟩ <;> rintro rfl <;> exact absurd h (by decide)

/-- What a printed value begins with: no blank, and no closing bracket. -/
theorem printAt_eq_cons (layout : Layout) (level : Nat) (v : Json) :
    ∃ c cs, printAt layout level v = c :: cs ∧ isBlank c = false ∧ c ≠ ']' := by
  have hinteger : ∀ n : Int, ∃ c cs, integer n = c :: cs ∧ isBlank c = false ∧ c ≠ ']' := by
    intro n
    obtain ⟨c, cs, hcs, hc⟩ := integer_eq_cons n
    refine ⟨c, cs, hcs, isBlank_of_number hc, ?_⟩
    rintro rfl
    exact absurd hc (by decide)
  cases v with
  | null => exact ⟨_, _, rfl, rfl, by decide⟩
  | bool value => cases value <;> exact ⟨_, _, rfl, rfl, by decide⟩
  | int n => exact hinteger n
  | decimal c e =>
    obtain ⟨d, ds, hds, hd⟩ := hinteger c
    exact ⟨d, ds ++ 'e' :: integer e, by rw [printAt, hds, List.cons_append], hd⟩
  | str text => exact ⟨_, _, rfl, rfl, by decide⟩
  | brokenStr => exact ⟨_, _, rfl, rfl, by decide⟩
  | arr items => cases items <;> exact ⟨_, _, rfl, rfl, by decide⟩
  | obj members => cases members <;> exact ⟨_, _, rfl, rfl, by decide⟩

theorem length_printAt_pos (layout : Layout) (level : Nat) (v : Json) :
    0 < (printAt layout level v).length := by
  obtain ⟨c, cs, hcs, -, -⟩ := printAt_eq_cons layout level v
  rw [hcs]
  simp

/-- Blanks in front of a value make no difference. -/
theorem readValue_append_blanks (bound : Nat) {blanks cs : List Char}
    (h : ∀ c ∈ blanks, isBlank c = true) : readValue bound (blanks ++ cs) = readValue bound cs := by
  cases bound with
  | zero => rfl
  | succ bound => rw [readValue, readValue, skipBlanks_append h]

@[simp] theorem readValue_lineBreak (bound : Nat) (layout : Layout) (level : Nat) (cs : List Char) :
    readValue bound (layout.lineBreak level ++ cs) = readValue bound cs :=
  readValue_append_blanks bound fun _ => isBlank_of_mem_lineBreak

/-! ## Keys -/

/-- A printed key and its colon are read as the key; a blank may remain before the value. -/
theorem readKey_printKey (layout : Layout) (key : Option String) (cs : List Char) :
    ∃ blanks, (∀ c ∈ blanks, isBlank c = true) ∧
      readKey (printKey key ++ (layout.colon ++ cs)) = some (key, blanks ++ cs) := by
  have hkey : ∃ text units, printKey key = '"' :: text ∧
      (∀ rest, scanText (text ++ rest) = some (units, rest)) ∧ textOf units = key := by
    cases key with
    | none => exact ⟨_, [.high 0], rfl, fun _ => rfl, rfl⟩
    | some key =>
      refine ⟨key.toList.flatMap escapeChar ++ ['"'], _, rfl, fun rest => ?_, textOf_map_char key⟩
      rw [List.append_assoc]
      exact scanText_flatMap key.toList rest
  obtain ⟨text, units, hprint, hscan, rfl⟩ := hkey
  cases layout with
  | compact =>
    refine ⟨[], by simp, ?_⟩
    rw [readKey, hprint, List.cons_append, skipBlanks_cons rfl]
    simp only [hscan]
    rfl
  | pretty =>
    refine ⟨[' '], by simp; rfl, ?_⟩
    rw [readKey, hprint, List.cons_append, skipBlanks_cons rfl]
    simp only [hscan]
    rfl

@[simp] theorem readKey_lineBreak (layout : Layout) (level : Nat) (cs : List Char) :
    readKey (layout.lineBreak level ++ cs) = readKey cs := by
  rw [readKey, readKey, skipBlanks_lineBreak]

theorem skipBlanks_printKey (key : Option String) (cs : List Char) :
    ∃ rest, skipBlanks (printKey key ++ cs) = '"' :: rest ∧ printKey key ++ cs = '"' :: rest := by
  cases key <;> exact ⟨_, rfl, rfl⟩

/-! ## The parts of values -/

theorem readValue_text (bound : Nat) {units : List TextUnit} {text rest : List Char}
    (h : scanText text = some (units, rest)) :
    readValue (bound + 1) ('"' :: text) = some ((textOf units).elim .brokenStr .str, rest) := by
  rw [readValue, skipBlanks_cons rfl]
  show (scanText text >>= _) = _
  rw [h]
  rfl

theorem readValue_integer (bound : Nat) (n : Int) {rest : List Char} (h : EndsNumber rest) :
    readValue (bound + 1) (integer n ++ rest) = some (.int n, rest) := by
  obtain ⟨c, cs, hcs, hc⟩ := integer_eq_cons n
  rw [← readNumber_integer n h, hcs, List.cons_append, readValue,
    skipBlanks_cons (isBlank_of_number hc)]
  -- no other value begins with a sign or a digit
  split
  all_goals first
    | rfl
    | next heq =>
      rw [List.cons.injEq] at heq
      rw [heq.1] at hc
      exact absurd hc (by decide)

/-- A list is read by its first item and the others. -/
theorem readValue_arr {bound : Nat} {item : Json} {items : List Json}
    {cs cs' first rest : List Char} {c : Char} (hskip : skipBlanks cs = c :: cs') (hne : c ≠ ']')
    (hitem : readValue bound (c :: cs') = some (item, first))
    (hitems : readItems bound first = some (items, rest)) :
    readValue (bound + 1) ('[' :: cs) = some (.arr (item :: items), rest) := by
  simp only [readValue, skipBlanks_cons (show isBlank '[' = false from rfl), hskip]
  split
  · next heq =>
    rw [List.cons.injEq] at heq
    exact absurd heq.1 hne
  · rw [hitem]
    show (readItems bound first >>= _) = _
    rw [hitems]
    rfl

/-- An object is read by its first member and the others. -/
theorem readValue_obj {bound : Nat} {key : Option String} {value : Json}
    {members : List (Option String × Json)} {cs cs' behind first rest : List Char}
    (hskip : skipBlanks cs = '"' :: cs') (hkey : readKey ('"' :: cs') = some (key, behind))
    (hvalue : readValue bound behind = some (value, first))
    (hmembers : readMembers bound first = some (members, rest)) :
    readValue (bound + 1) ('\x7b' :: cs) = some (.obj ((key, value) :: members), rest) := by
  simp only [readValue, skipBlanks_cons (show isBlank '\x7b' = false from rfl), hskip]
  show (readKey ('"' :: cs') >>= _) = _
  rw [hkey]
  show (readValue bound behind >>= _) = _
  rw [hvalue]
  show (readMembers bound first >>= _) = _
  rw [hmembers]
  rfl

theorem readItems_cons {bound : Nat} {item : Json} {items : List Json} {cs first rest : List Char}
    (hitem : readValue bound cs = some (item, first))
    (hitems : readItems bound first = some (items, rest)) :
    readItems (bound + 1) (',' :: cs) = some (item :: items, rest) := by
  rw [readItems, skipBlanks_cons rfl]
  show (readValue bound cs >>= _) = _
  rw [hitem]
  show (readItems bound first >>= _) = _
  rw [hitems]
  rfl

theorem readMembers_cons {bound : Nat} {key : Option String} {value : Json}
    {members : List (Option String × Json)} {cs behind first rest : List Char}
    (hkey : readKey cs = some (key, behind))
    (hvalue : readValue bound behind = some (value, first))
    (hmembers : readMembers bound first = some (members, rest)) :
    readMembers (bound + 1) (',' :: cs) = some ((key, value) :: members, rest) := by
  rw [readMembers, skipBlanks_cons rfl]
  show (readKey cs >>= _) = _
  rw [hkey]
  show (readValue bound behind >>= _) = _
  rw [hvalue]
  show (readMembers bound first >>= _) = _
  rw [hmembers]
  rfl

/-! ## Values -/

/-- Behind an item no number goes on: there stands a comma, a line break or the closing bracket. -/
theorem endsNumber_behindItem (layout : Layout) (level : Nat) (items : List Json)
    (rest : List Char) :
    EndsNumber (printItems layout (level + 1) items ++ (layout.lineBreak level ++ ']' :: rest)) := by
  cases items with
  | nil => cases layout <;> exact endsNumber_cons.mpr (by decide)
  | cons item items => exact endsNumber_cons.mpr (by decide)

theorem endsNumber_behindMember (layout : Layout) (level : Nat)
    (members : List (Option String × Json)) (rest : List Char) :
    EndsNumber (printMembers layout (level + 1) members ++
      (layout.lineBreak level ++ '\x7d' :: rest)) := by
  cases members with
  | nil => cases layout <;> exact endsNumber_cons.mpr (by decide)
  | cons member members => exact endsNumber_cons.mpr (by decide)

mutual

/-- **A printed value is read as itself, whatever follows it;** only a number must not go on. -/
theorem readValue_printAt (layout : Layout) : ∀ (v : Json) (level bound : Nat) (rest : List Char),
    v.IsExact → (printAt layout level v).length ≤ bound → EndsNumber rest →
      readValue bound (printAt layout level v ++ rest) = some (v, rest)
  | v, level, 0, _, _, hbound, _ => by
    have hpos := length_printAt_pos layout level v
    omega
  | .null, _, _ + 1, _, _, _, _ => by
    rw [readValue]
    rfl
  | .bool true, _, _ + 1, _, _, _, _ => by
    rw [readValue]
    rfl
  | .bool false, _, _ + 1, _, _, _, _ => by
    rw [readValue]
    rfl
  | .int n, _, bound + 1, _, _, _, hrest => readValue_integer bound n hrest
  | .decimal _ _, _, _ + 1, _, hexact, _, _ => hexact.elim
  | .str text, _, bound + 1, rest, _, _, _ => by
    obtain ⟨units, hquote, hscan, htext⟩ := scanText_quote text rest
    show readValue (bound + 1) (quote text ++ rest) = _
    rw [hquote, readValue_text bound hscan, htext]
    rfl
  | .brokenStr, _, _ + 1, _, _, _, _ => by
    rw [readValue]
    rfl
  | .arr [], _, _ + 1, _, _, _, _ => by
    rw [readValue]
    rfl
  | .arr (item :: items), level, bound + 1, rest, hexact, hbound, _ => by
    obtain ⟨c, cs, hcs, hblank, hne⟩ := printAt_eq_cons layout (level + 1) item
    simp only [printAt, List.length_cons, List.length_append] at hbound
    have hpos := length_printAt_pos layout (level + 1) item
    have hitem := readValue_printAt layout item (level + 1) bound
      (printItems layout (level + 1) items ++ (layout.lineBreak level ++ ']' :: rest)) hexact.1
      (by omega) (endsNumber_behindItem layout level items rest)
    have hitems := readItems_printItems layout items level bound rest hexact.2 (by omega)
    have htext : printAt layout level (.arr (item :: items)) ++ rest
        = '[' :: (layout.lineBreak (level + 1) ++ (printAt layout (level + 1) item ++
          (printItems layout (level + 1) items ++ (layout.lineBreak level ++ ']' :: rest)))) := by
      simp [printAt]
    rw [htext]
    rw [hcs, List.cons_append] at hitem
    refine readValue_arr ?_ hne hitem hitems
    rw [skipBlanks_lineBreak, hcs, List.cons_append, skipBlanks_cons hblank]
  | .obj [], _, _ + 1, _, _, _, _ => by
    rw [readValue]
    rfl
  | .obj ((key, value) :: members), level, bound + 1, rest, hexact, hbound, _ => by
    simp only [printAt, List.length_cons, List.length_append] at hbound
    have hpos := length_printAt_pos layout (level + 1) value
    have hvalue := readValue_printAt layout value (level + 1) bound
      (printMembers layout (level + 1) members ++ (layout.lineBreak level ++ '\x7d' :: rest))
      hexact.1 (by omega) (endsNumber_behindMember layout level members rest)
    have hmembers := readMembers_printMembers layout members level bound rest hexact.2 (by omega)
    have htext : printAt layout level (.obj ((key, value) :: members)) ++ rest
        = '\x7b' :: (layout.lineBreak (level + 1) ++ (printKey key ++ (layout.colon ++
          (printAt layout (level + 1) value ++ (printMembers layout (level + 1) members ++
            (layout.lineBreak level ++ '\x7d' :: rest)))))) := by
      simp [printAt]
    rw [htext]
    obtain ⟨blanks, hblanks, hkey⟩ := readKey_printKey layout key (printAt layout (level + 1) value ++
      (printMembers layout (level + 1) members ++ (layout.lineBreak level ++ '\x7d' :: rest)))
    obtain ⟨cs, hskip, hcs⟩ := skipBlanks_printKey key (layout.colon ++
      (printAt layout (level + 1) value ++ (printMembers layout (level + 1) members ++
        (layout.lineBreak level ++ '\x7d' :: rest))))
    rw [hcs] at hkey
    refine readValue_obj (by rw [skipBlanks_lineBreak, hskip]) hkey ?_ hmembers
    rw [readValue_append_blanks bound hblanks, hvalue]

/-- The items behind the first one are read up to the closing bracket. -/
theorem readItems_printItems (layout : Layout) :
    ∀ (items : List Json) (level bound : Nat) (rest : List Char),
      AreExact items → (printItems layout (level + 1) items).length < bound →
        readItems bound (printItems layout (level + 1) items ++
          (layout.lineBreak level ++ ']' :: rest)) = some (items, rest)
  | _, _, 0, _, _, hbound => by omega
  | [], level, bound + 1, rest, _, _ => by
    rw [printItems, List.nil_append, readItems, skipBlanks_lineBreak, skipBlanks_cons rfl]
    rfl
  | item :: items, level, bound + 1, rest, hexact, hbound => by
    simp only [printItems, List.length_cons, List.length_append] at hbound
    have hpos := length_printAt_pos layout (level + 1) item
    have hitem := readValue_printAt layout item (level + 1) bound
      (printItems layout (level + 1) items ++ (layout.lineBreak level ++ ']' :: rest)) hexact.1
      (by omega) (endsNumber_behindItem layout level items rest)
    have hitems := readItems_printItems layout items level bound rest hexact.2 (by omega)
    have htext : printItems layout (level + 1) (item :: items) ++
          (layout.lineBreak level ++ ']' :: rest)
        = ',' :: (layout.lineBreak (level + 1) ++ (printAt layout (level + 1) item ++
          (printItems layout (level + 1) items ++ (layout.lineBreak level ++ ']' :: rest)))) := by
      simp [printItems]
    rw [htext]
    refine readItems_cons ?_ hitems
    rw [readValue_lineBreak, hitem]

/-- The members behind the first one are read up to the closing brace. -/
theorem readMembers_printMembers (layout : Layout) :
    ∀ (members : List (Option String × Json)) (level bound : Nat) (rest : List Char),
      MembersExact members → (printMembers layout (level + 1) members).length < bound →
        readMembers bound (printMembers layout (level + 1) members ++
          (layout.lineBreak level ++ '\x7d' :: rest)) = some (members, rest)
  | _, _, 0, _, _, hbound => by omega
  | [], level, bound + 1, rest, _, _ => by
    rw [printMembers, List.nil_append, readMembers, skipBlanks_lineBreak, skipBlanks_cons rfl]
    rfl
  | (key, value) :: members, level, bound + 1, rest, hexact, hbound => by
    simp only [printMembers, List.length_cons, List.length_append] at hbound
    have hpos := length_printAt_pos layout (level + 1) value
    have hvalue := readValue_printAt layout value (level + 1) bound
      (printMembers layout (level + 1) members ++ (layout.lineBreak level ++ '\x7d' :: rest))
      hexact.1 (by omega) (endsNumber_behindMember layout level members rest)
    have hmembers := readMembers_printMembers layout members level bound rest hexact.2 (by omega)
    have htext : printMembers layout (level + 1) ((key, value) :: members) ++
          (layout.lineBreak level ++ '\x7d' :: rest)
        = ',' :: (layout.lineBreak (level + 1) ++ (printKey key ++ (layout.colon ++
          (printAt layout (level + 1) value ++ (printMembers layout (level + 1) members ++
            (layout.lineBreak level ++ '\x7d' :: rest)))))) := by
      simp [printMembers]
    rw [htext]
    obtain ⟨blanks, hblanks, hkey⟩ := readKey_printKey layout key (printAt layout (level + 1) value ++
      (printMembers layout (level + 1) members ++ (layout.lineBreak level ++ '\x7d' :: rest)))
    refine readMembers_cons (by rw [readKey_lineBreak, hkey]) ?_ hmembers
    rw [readValue_append_blanks bound hblanks, hvalue]

end

/-- **Reading takes back printing,** in either layout. -/
theorem read?_print (layout : Layout) {v : Json} (h : v.IsExact) :
    read? (print layout v) = some v := by
  have hread := readValue_printAt layout v 0 ((printAt layout 0 v).length + 1) [] h (by omega)
    endsNumber_nil
  rw [List.append_nil] at hread
  rw [read?, print, String.toList_ofList, hread]
  rfl

end MutationTesting.Json
