import MutationTesting.Shell.Format
import MutationTesting.Shell.Utility.Column

/-!
# Ordering utilities

Utilities that put lines in order, leave out repeated ones, and compare ordered ones. Lines are
ordered by keys, which are parts of them read as texts or numbers, and then by all their bytes.
-/

namespace MutationTesting.Shell.Utility

/-! ## Keys -/

/-- How a key is read and compared. -/
structure KeyStyle where
  /-- Blanks in front of its beginning do not count. -/
  skipsBlanks : Bool := false
  /-- Blanks in front of its end do not count. -/
  skipsBlanksAtEnd : Bool := false
  /-- How it is read: as a text, or as a number of some kind. -/
  kind : Char := ' '
  /-- Only letters, digits and blanks count. -/
  isDictionary : Bool := false
  /-- Only characters that can be printed count. -/
  isPrinted : Bool := false
  /-- Letters count as capital ones. -/
  ignoresCase : Bool := false
  /-- The order is reversed. -/
  isReversed : Bool := false
  deriving DecidableEq, Repr

/-- A key: where it begins, where it ends, and how it is read. -/
structure Key where
  /-- The field in which it begins, counted from one. -/
  field : Nat := 1
  /-- The character of the field with which it begins, counted from one. -/
  char : Nat := 1
  /-- The field in which it ends and the character behind which it does, none for that of the field. -/
  last? : Option (Nat × Nat) := none
  /-- How it is read. -/
  style : KeyStyle := {}
  deriving DecidableEq, Repr

namespace KeyStyle

/-- The style with what a letter says. -/
def withLetter? (s : KeyStyle) : Char → Option KeyStyle
  | 'b' => some { s with skipsBlanks := true, skipsBlanksAtEnd := true }
  | 'd' => some { s with isDictionary := true }
  | 'i' => some { s with isPrinted := true }
  | 'f' => some { s with ignoresCase := true }
  | 'r' => some { s with isReversed := true }
  | c => if ['n', 'g', 'h', 'M', 'V', 'R'].contains c then some { s with kind := c } else none

/-- The style with what letters say, as far as they are known. -/
def withLetters (s : KeyStyle) (letters : List Char) : KeyStyle :=
  letters.foldl (fun s c => (s.withLetter? c).getD s) s

end KeyStyle

namespace Key

/-- The field and the character of a place in a line, and what follows them. -/
def place? (cs : List Char) : Option (Nat × Option Nat × List Char) := do
  let digits := cs.takeWhile Char.isDigit
  let field ← digits? digits
  match cs.drop digits.length with
  | '.' :: rest =>
    let more := rest.takeWhile Char.isDigit
    return (field, some (← digits? more), rest.drop more.length)
  | rest => return (field, none, rest)

/-- The key that a text describes, or what is wrong with it. -/
def read (text : String) : Except String Key :=
  let bad (what : String) : Except String Key :=
    .error (what ++ ": invalid field specification " ++ inQuotes text)
  match place? text.toList with
  | none => .error ("invalid number at field start: invalid count at start of " ++ inQuotes text)
  | some (field, char?, rest) =>
    if field = 0 then bad "field number is zero"
    else if char? = some 0 then bad "character offset is zero"
    else
      let letters := rest.takeWhile Char.isAlpha
      let style : KeyStyle := letters.foldl (fun s c =>
        if c == 'b' then { s with skipsBlanks := true } else (s.withLetter? c).getD s) {}
      let key : Key := { field, char := char?.getD 1, style }
      match rest.drop letters.length with
      | [] => if letters.all fun c => (style.withLetter? c).isSome then .ok key
          else bad "stray character in field spec"
      | ',' :: rest =>
        match place? rest with
        | none => .error ("invalid number after ',': invalid count at start of "
            ++ inQuotes (String.ofList rest))
        | some (last, char?, rest) =>
          if last = 0 then bad "field number is zero"
          else if rest.all fun c => (style.withLetter? c).isSome then
            let style := rest.foldl (fun s c =>
              if c == 'b' then { s with skipsBlanksAtEnd := true } else (s.withLetter? c).getD s) style
            .ok { key with last? := some (last, char?.getD 0), style }
          else bad "stray character in field spec"
      | _ => bad "stray character in field spec"

/-- The number of characters of some fields in front, with what separates them from the next one if it
is asked for. -/
def fieldsSize (separator? : Option Char) : Nat → List Char → Nat
  | 0, _ => 0
  | n + 1, cs =>
    match separator? with
    | some separator =>
      let field := cs.takeWhile (· != separator)
      match cs.drop field.length with
      | [] => field.length
      | _ :: rest => field.length + 1 + fieldsSize separator? n rest
    | none =>
      let blanks := cs.takeWhile fun c => isBlank c || c == '\n'
      let field := (cs.drop blanks.length).takeWhile fun c => !(isBlank c || c == '\n')
      blanks.length + field.length
        + fieldsSize separator? n (cs.drop (blanks.length + field.length))

/-- The place behind blanks. -/
def skipBlanks (skips : Bool) (line : List Char) (place : Nat) : Nat :=
  if skips then place + ((line.drop place).takeWhile isBlank).length else place

/-- The part of a line that a key is. -/
def part (k : Key) (separator? : Option Char) (line : List Char) : List Char :=
  let begin := fieldsSize separator? (k.field - 1) line
  let begin := skipBlanks k.style.skipsBlanks line begin + (k.char - 1)
  let finish := match k.last? with
    | none => line.length
    | some (field, 0) =>
      let size := fieldsSize separator? field line
      if separator?.isSome && size < line.length then size - 1
      else if separator?.isSome && separator? == line.getLast? && size = line.length
        && (line.filter fun c => some c == separator?).length = field then size - 1
      else size
    | some (field, char) =>
      skipBlanks k.style.skipsBlanksAtEnd line (fieldsSize separator? (field - 1) line) + char
  (line.take finish).drop begin

end Key

/-! ## Values of keys -/

/-- What a key is read as. -/
inductive KeyValue where
  /-- A text. -/
  | text (cs : List Char)
  /-- A number behind a rank. -/
  | number (rank : Int) (q : Rat)
  /-- Pieces of a version: texts and numbers in turn. -/
  | version (pieces : List (List Char × Nat))

namespace KeyValue

/-- The number in front: an optional minus sign, digits and decimal places. -/
def plainNumber (cs : List Char) : Rat × List Char :=
  let cs := cs.dropWhile isBlank
  let (isNegative, cs) := match cs with
    | '-' :: rest => (true, rest)
    | cs => (false, cs)
  match Formatted.spanSize 10 '\x00' cs with
  | some (q, rest) => (if isNegative then -q else q, rest)
  | none => (0, cs)

/-- The months by the first letters of their names. -/
def months : List String :=
  ["JAN", "FEB", "MAR", "APR", "MAY", "JUN", "JUL", "AUG", "SEP", "OCT", "NOV", "DEC"]

/-- The rank of the unit behind a number. -/
def unitRank (cs : List Char) : Int :=
  match cs.head?.bind fun c => ['K', 'M', 'G', 'T', 'P', 'E', 'Z', 'Y'].idxOf? c.toUpper with
  | some i => i + 1
  | none => 0

/-- The rank of a character in a version: a tilde comes first, then the end, then letters. -/
def versionRank (c : Char) : Nat :=
  if c == '~' then 0 else if c.isAlpha then c.toNat else c.toNat + 256

/-- The pieces of a version, with a bound on their number. -/
def versionPieces : Nat → List Char → List (List Char × Nat)
  | 0, _ => []
  | bound + 1, cs =>
    if cs.isEmpty then []
    else
      let text := cs.takeWhile (!·.isDigit)
      let digits := (cs.drop text.length).takeWhile Char.isDigit
      (text, Nat.ofDigitChars 10 digits 0)
        :: versionPieces bound (cs.drop (text.length + digits.length))

/-- A part of a line read in a style. -/
def read (s : KeyStyle) (cs : List Char) : KeyValue :=
  let sign (q : Rat) (rank : Int) : KeyValue :=
    if q = 0 then .number 0 0 else .number (if q < 0 then -(rank + 1) else rank + 1) q
  match s.kind with
  | 'n' => .number 0 (plainNumber cs).1
  | 'h' => let (q, rest) := plainNumber cs; sign q (unitRank rest)
  | 'g' =>
    match Formatted.realOf (String.ofList cs) with
    | (.finite isNegative q, some fault) =>
      if fault.endsWith "expected numeric value" then .number (-1) 0
      else .number 0 (if isNegative then -q else q)
    | (.finite isNegative q, none) =>
      if cs.isEmpty then .number (-1) 0 else .number 0 (if isNegative then -q else q)
    | (.infinite isNegative, _) => .number (if isNegative then 0 else 1) (Decimal.scale (-1) 400)
    | (.undefined, _) => .number (-1) 1
  | 'M' =>
    let name := String.ofList (((cs.dropWhile isBlank).take 3).map Char.toUpper)
    .number (match months.idxOf? name with
      | some i => i + 1
      | none => 0) 0
  | 'V' => .version (versionPieces (cs.length + 1) cs)
  | _ =>
    let cs := if s.isDictionary then cs.filter fun c => c.isAlphanum || isBlank c else cs
    let cs := if s.isPrinted then cs.filter fun c => 32 ≤ c.toNat && c.toNat < 127 else cs
    .text (if s.ignoresCase then cs.map Char.toUpper else cs)

/-- Compares lists by their elements, shorter ones first. -/
def compareLists (compare : α → α → Ordering) : List α → List α → Ordering
  | [], [] => .eq
  | [], _ :: _ => .lt
  | _ :: _, [] => .gt
  | a :: as, b :: bs => (compare a b).then (compareLists compare as bs)

/-- Compares texts of versions. -/
def compareVersionTexts : List Char → List Char → Ordering
  | [], [] => .eq
  | [], b :: _ => if b == '~' then .gt else .lt
  | a :: _, [] => if a == '~' then .lt else .gt
  | a :: as, b :: bs => (compare (versionRank a) (versionRank b)).then (compareVersionTexts as bs)

/-- Compares values of one key. -/
def order : KeyValue → KeyValue → Ordering
  | .text a, .text b => compareLists compare a b
  | .number r q, .number s p =>
    (compare r s).then (if q < p then .lt else if p < q then .gt else .eq)
  | .version a, .version b =>
    compareLists (fun a b => (compareVersionTexts a.1 b.1).then (compare a.2 b.2)) a b
  | _, _ => .eq

end KeyValue

/-! ## Sorting -/

/-- How lines are sorted. -/
structure Sorting where
  /-- The character between fields, none for blanks. -/
  separator? : Option Char
  /-- The keys. -/
  keys : List Key
  /-- Lines whose keys are equal stay in order. -/
  isStable : Bool
  /-- The order of whole lines is reversed. -/
  isReversed : Bool

namespace Sorting

/-- A line with the values of its keys. -/
abbrev Entry := List KeyValue × List Char

/-- A line with the values of its keys. -/
def entry (s : Sorting) (line : List Char) : Entry :=
  (s.keys.map fun k => KeyValue.read k.style (k.part s.separator? line), line)

/-- Compares the keys of lines. -/
def compareKeys (s : Sorting) (a b : Entry) : Ordering :=
  ((s.keys.zip (a.1.zip b.1)).foldl fun o (k, x, y) =>
    o.then (if k.style.isReversed then (x.order y).swap else x.order y)) .eq

/-- Compares lines. -/
def compareEntries (s : Sorting) (a b : Entry) : Ordering :=
  (s.compareKeys a b).then (if s.isStable then .eq
    else
      let o := KeyValue.compareLists compare a.2 b.2
      if s.isReversed then o.swap else o)

end Sorting

/-- The sorting that options ask for, or what is wrong with them. -/
def sortingOf (r : Request) : Except String Sorting := do
  let letters := (r.options.filter fun o => "bdfgiMhnRrV".toList.contains o.1).map (·.1)
  let usual : KeyStyle := KeyStyle.withLetters {} letters
  let given ← (r.values 'k').mapM Key.read
  let separator? ← match r.value? 't' with
    | none => pure none
    | some "\\0" => pure (some '\x00')
    | some text =>
      match text.toList with
      | [c] => pure (some c)
      | [] => throw "empty tab"
      | _ => throw ("multi-character tab " ++ inQuotes text)
  let keys := given.map fun k => if k.style == {} then { k with style := usual } else k
  let isPlain := { usual with isReversed := false } == ({} : KeyStyle)
  let keys := if given.isEmpty && !isPlain then [{ style := usual }] else keys
  return {
    separator?, keys
    isStable := (r.has 's' || r.has 'u') && !keys.isEmpty
    isReversed := usual.isReversed }

/-- Leaves one of several entries in a row whose keys are equal. -/
def distinctEntries (s : Sorting) (entries : List Sorting.Entry) : List Sorting.Entry :=
  (entries.foldl (fun (out : List Sorting.Entry) e =>
    match out with
    | last :: _ => if s.compareEntries last e == .eq then out else e :: out
    | [] => [e]) []).reverse

/-- The first line that is not in order, with its number. -/
def disorder? (s : Sorting) (isUnique : Bool) : Nat → List Sorting.Entry →
    Option (Nat × List Char)
  | n, a :: b :: rest =>
    let o := s.compareEntries a b
    if o == .gt || (isUnique && o == .eq) then some (n + 1, b.2)
    else disorder? s isUnique (n + 1) (b :: rest)
  | _, _ => none

/-- Prints the lines of inputs in order. -/
def sort (args : List String) (st : State) : State :=
  let g : Grammar :=
    { flags := "bdfgiMhnRrVcCmsuz", valued := "koStT"
      names := [("ignore-leading-blanks", 'b'), ("dictionary-order", 'd'), ("ignore-case", 'f'),
        ("general-numeric-sort", 'g'), ("ignore-nonprinting", 'i'), ("month-sort", 'M'),
        ("human-numeric-sort", 'h'), ("numeric-sort", 'n'), ("reverse", 'r'),
        ("version-sort", 'V'), ("check", 'c'), ("key", 'k'), ("merge", 'm'), ("output", 'o'),
        ("stable", 's'), ("field-separator", 't'), ("unique", 'u')] }
  withRequest "sort" 2 g args st fun r st =>
    match sortingOf r with
    | .error text => faultWith 2 "sort" text st
    | .ok s =>
      let operands := if r.operands.isEmpty then ["-"] else r.operands
      let (cs, st') := operands.foldl (fun (acc : List Char × State) path =>
        match openInput path acc.2 with
        | (.ok cs, st) => (acc.1 ++ if Lines.isOpen cs then cs ++ ['\n'] else cs, st)
        | (.error .isDirectory, st) =>
          (acc.1, faultWith 2 "sort" ("read failed: " ++ path ++ ": Is a directory") st)
        | (.error reason, st) =>
          (acc.1, faultWith 2 "sort" ("cannot read: " ++ path ++ ": " ++ ioText reason) st))
        ([], st)
      if st'.status != 0 then st'
      else
        let entries := (Lines.split cs).map s.entry
        if r.has 'c' || r.has 'C' then
          match disorder? s (r.has 'u') 1 entries with
          | none => st'
          | some (n, line) =>
            if r.has 'C' then st'.withStatus 1
            else fault "sort" (operands.headD "" ++ ":" ++ n.repr ++ ": disorder: "
              ++ String.ofList line) st'
        else
          let sorted := entries.mergeSort fun a b => s.compareEntries a b != .gt
          let sorted := if r.has 'u' then distinctEntries s sorted else sorted
          let lines := sorted.map (·.2)
          match r.value? 'o' with
          | none => printLines st' lines
          | some path =>
            match st'.writeFile path (String.ofList (Lines.join lines)) with
            | .ok st => st
            | .error reason => faultWith 2 "sort" ("open failed: " ++ path ++ ": "
                ++ ioText reason) st'

/-! ## Repeated lines -/

/-- Groups of lines in a row whose keys are equal. -/
def groupLines (key : List Char → List Char) (lines : List (List Char)) :
    List (List (List Char)) :=
  lines.splitBy fun a b => key a == key b

/-- Prints one of several equal lines in a row, possibly with their number. -/
def unique (args : List String) (st : State) : State :=
  let g : Grammar :=
    { flags := "cdDiuz", valued := "fsw"
      names := [("count", 'c'), ("repeated", 'd'), ("ignore-case", 'i'), ("unique", 'u'),
        ("skip-fields", 'f'), ("skip-chars", 's'), ("check-chars", 'w')] }
  withRequest "uniq" 1 g args st fun r st =>
    let number (letter : Char) : Option Nat :=
      (r.value? letter).bind fun text => digits? text.toList
    let key (line : List Char) : List Char :=
      let line := line.drop (Key.fieldsSize none ((number 'f').getD 0) line)
      let line := line.drop ((number 's').getD 0)
      let line := match number 'w' with
        | some n => line.take n
        | none => line
      if r.has 'i' then line.map Char.toLower else line
    match r.operands.drop 2 with
    | extra :: _ => fault "uniq" ("extra operand " ++ inQuotes extra ++ hint "uniq") st
    | [] =>
      let (cs, st) := inputOf "uniq" plainMessage (r.operands.take 1) st
      if st.status != 0 then st
      else
        let groups := groupLines key (Lines.split cs)
        let shown := groups.filter fun group =>
          (!r.has 'd' || 1 < group.length) && (!r.has 'D' || 1 < group.length)
            && (!r.has 'u' || group.length = 1)
        let lines := if r.has 'D' then shown.flatten
          else shown.map fun group =>
            (if r.has 'c' then (padLeft 7 group.length.repr ++ " ").toList else [])
              ++ group.headD []
        match r.operands.drop 1 with
        | [] => printLines st lines
        | path :: _ =>
          if path == "-" then printLines st lines
          else match st.writeFile path (String.ofList (Lines.join lines)) with
            | .ok st => st
            | .error reason => fault "uniq" (plainMessage path (ioText reason)) st

/-! ## Ordered lines side by side -/

/-- The lines of two lists in order, each with the column of where it stands, with a bound on their
number. -/
def mergeColumns : Nat → List (List Char) → List (List Char) → List (Nat × List Char)
  | 0, _, _ => []
  | _ + 1, [], bs => bs.map fun b => (2, b)
  | _ + 1, as, [] => as.map fun a => (1, a)
  | bound + 1, a :: as, b :: bs =>
    match KeyValue.compareLists compare a b with
    | .lt => (1, a) :: mergeColumns bound as (b :: bs)
    | .gt => (2, b) :: mergeColumns bound (a :: as) bs
    | .eq => (3, a) :: mergeColumns bound as bs

/-- Prints which lines two inputs in order have alone and in common. -/
def common (args : List String) (st : State) : State :=
  withRequest "comm" 1 { flags := "123z" } args st fun r st =>
    match r.operands with
    | [a, b] =>
      let (inputs, st) := inputsOf "comm" plainMessage [a, b] st
      match inputs with
      | [(_, a), (_, b)] =>
        let hides (column : Nat) : Bool := r.has (Char.ofNat (column + 48))
        let indent (column : Nat) : List Char :=
          ((List.range column).filter fun c => 0 < c && !hides c).map fun _ => '\t'
        let as := Lines.split a
        let bs := Lines.split b
        printLines st ((mergeColumns (as.length + bs.length + 1) as bs).filterMap fun (column, line) =>
          if hides column then none else some (indent column ++ line))
      | _ => st
    | [] => fault "comm" ("missing operand" ++ hint "comm") st
    | [a] => fault "comm" ("missing operand after " ++ inQuotes a ++ hint "comm") st
    | _ :: _ :: extra :: _ => fault "comm" ("extra operand " ++ inQuotes extra ++ hint "comm") st

end MutationTesting.Shell.Utility
