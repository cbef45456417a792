import MutationTesting.Shell.Variable

/-!
# Settings of the shell

The commands that switch on or off what a shell does by itself, set its arguments, and search them
for options, and the rights that new files do not get.
-/

namespace MutationTesting.Shell

/-! ## Arguments and switches -/

/-- The state with other arguments, in which no option has been searched for yet. -/
def State.withArgs (st : State) (args : List String) : State :=
  { st with args, optionIndex := 1, optionPlace := 0 }

/-- Switches on or off what letters say, unless one of them says nothing. -/
def switchAll (on : Bool) : List Char → Options → Except Char Options
  | [], o => .ok o
  | c :: cs, o =>
    match o.switch? on c with
    | some o => switchAll on cs o
    | none => .error c

/-- What is switched on and off, as a table or as commands. -/
def listSettings (asTable : Bool) (o : Options) : String :=
  let isOn (letter? : Option Char) := letter?.any o.has
  if asTable then
    "Current option settings\n" ++ String.join (Options.names.map fun (name, letter?) =>
      name ++ String.ofList (List.replicate (16 - name.length) ' ')
        ++ (if isOn letter? then "on" else "off") ++ "\n")
  else
    String.join (Options.names.map fun (name, letter?) =>
      "set " ++ (if isOn letter? then "-o " else "+o ") ++ name ++ "\n")

/-- Switches on or off what the letters of an argument say; the name of a switch may be the next
argument. -/
def switchLetters (on : Bool) : List Char → List String → State → State × List String
  | [], args, st => (st, args)
  | 'o' :: cs, args, st =>
    match args with
    | [] => switchLetters on cs [] (st.print (listSettings on st.options))
    | name :: args =>
      match st.options.switchNamed? on name with
      | some options => switchLetters on cs args { st with options }
      | none => (st.refuse "set" ("Illegal option " ++ (if on then "-" else "+") ++ "o " ++ name), [])
  | c :: cs, args, st =>
    match st.options.switch? on c with
    | some options => switchLetters on cs args { st with options }
    | none => (st.refuse "set" ("Illegal option " ++ String.ofList [if on then '-' else '+', c]), [])

/-- Switches on or off what arguments say, and sets the arguments of the shell to the others. -/
def setOptions : Nat → List String → State → State
  | 0, _, st => st
  | bound + 1, args, st =>
    match args with
    | [] => st
    | "--" :: args => st.withArgs args
    | "-" :: args =>
      let options := (switchAll false ['x', 'v'] st.options).toOption.getD st.options
      let st := { st with options }
      if args.isEmpty then st else st.withArgs args
    | arg :: rest =>
      match arg.toList with
      | sign :: letters =>
        if sign = '-' ∨ sign = '+' then
          let (st, rest) := switchLetters (sign = '-') letters rest st
          if st.isRunning then setOptions bound rest st else st
        else st.withArgs args
      | [] => st.withArgs args

/-! ## Options of scripts -/

/-- What an argument list holds next. -/
inductive OptionSearch where
  /-- No option: they have all been found. -/
  | done
  /-- The letters behind the next one, and the arguments behind the one that they stand in. -/
  | found (letter : Char) (letters : List Char) (next : Nat)

/-- The next option, from a place in the argument in front of an index, or from the argument at it. -/
def nextOption (args : List String) (index place : Nat) : OptionSearch × Nat :=
  let current := if 1 < index && 0 < place then (args.getD (index - 2) "").toList.drop place else []
  match current with
  | c :: rest => (.found c rest index, index)
  | [] =>
    match (args.getD (index - 1) "").toList with
    | ['-', '-'] => (.done, index + 1)
    | '-' :: c :: rest => (.found c rest (index + 1), index)
    | _ => (.done, index)

/-- An option takes an argument of its own; none if it is not known. -/
def takesArgument? (c : Char) : List Char → Option Bool
  | [] => none
  | a :: ':' :: rest => if a = c then some true else takesArgument? c rest
  | a :: rest => if a = c then some false else takesArgument? c rest

/-- Searches arguments for the next option, and sets variables to it, its argument and its place. -/
def findOption (args : List String) (st : State) : State :=
  match args with
  | template :: name :: given =>
    let searched := if given.isEmpty then st.args else given
    let isSilent := template.startsWith ":"
    let letters := if isSilent then template.toList.tail else template.toList
    let finish (st : State) (letter : Char) (index place status : Nat) : State :=
      let st := assign "OPTIND" index.repr st
      if !isName name.toList then st.refuse "getopts" (name ++ ": bad variable name")
      else
        { assign name (String.singleton letter) st with
          status, optionIndex := index, optionPlace := place }
    let fault (st : State) (silent : Char) (c : Char) (text : String) : State × Char :=
      if isSilent then (assign "OPTARG" (String.singleton c) st, silent)
      else ((st.complain (text ++ "\n")).unset "OPTARG", '?')
    match nextOption searched st.optionIndex st.optionPlace with
    | (.done, index) => finish st '?' index 0 1
    | (.found c rest index, _) =>
      let place := ((searched.getD (index - 2) "").length) - rest.length
      let place := if rest.isEmpty then 0 else place
      match takesArgument? c letters with
      | none =>
        let (st, letter) := fault st '?' c ("Illegal option -" ++ String.singleton c)
        finish st letter index place 0
      | some false => finish (assign "OPTARG" "" st) c index place 0
      | some true =>
        if !rest.isEmpty then finish (assign "OPTARG" (String.ofList rest) st) c index 0 0
        else match searched[index - 1]? with
          | some arg => finish (assign "OPTARG" arg st) c (index + 1) 0 0
          | none =>
            let (st, letter) := fault st ':' c ("No arg for -" ++ String.singleton c ++ " option")
            finish st letter index 0 0
  | _ => st.refuse "getopts" "Usage: getopts optstring var [arg...]"

/-! ## The mask of rights -/

/-- The rights that letters stand for. -/
def rightsOf (mask : Nat) (letters : List Char) : Nat :=
  letters.foldl (fun rights c => rights ||| match c with
    | 'r' => 4
    | 'w' => 2
    | 'x' => 1
    | 'X' => 1
    | 'u' => (511 - mask) / 64 % 8
    | 'g' => (511 - mask) / 8 % 8
    | 'o' => (511 - mask) % 8
    | _ => 0) 0

/-- The rights that a clause of a symbolic mask leaves, for those to whom it applies. -/
def applyClause? (mask : Nat) (clause : List Char) : Option Nat :=
  let who := clause.takeWhile fun c => ['u', 'g', 'o', 'a'].contains c
  match clause.drop who.length with
  | op :: letters =>
    if ! ['+', '-', '='].contains op || letters.any fun c => !"rwxXugost".toList.contains c then none
    else
      let rights := rightsOf mask letters
      let all := who.isEmpty || who.contains 'a'
      let place (letter : Char) (factor : Nat) : Nat :=
        let held := (511 - mask) / factor % 8
        let changed := match op with
          | '+' => held ||| rights
          | '-' => held &&& (7 - rights)
          | _ => rights
        (if all || who.contains letter then changed else held) * factor
      some (511 - (place 'u' 64 + place 'g' 8 + place 'o' 1))
  | [] => none

/-- The mask that a text stands for: octal digits, or clauses. -/
def maskOf (mask : Nat) (text : String) : Except String Nat :=
  if text.toList.head?.any Char.isDigit then
    if text.toList.all fun c => '0' ≤ c && c ≤ '7' then
      .ok (Nat.ofDigitChars 8 text.toList 0 % 512)
    else .error ("Illegal number: " ++ text)
  else
    match (text.splitOn ",").foldlM (fun mask clause => applyClause? mask clause.toList) mask with
    | some mask => .ok mask
    | none => .error ("Illegal mode: " ++ text)

/-- The rights that a mask leaves, as letters. -/
def maskText (mask : Nat) : String :=
  let letters (rights : Nat) : String :=
    (if rights / 4 % 2 = 1 then "r" else "") ++ (if rights / 2 % 2 = 1 then "w" else "")
      ++ (if rights % 2 = 1 then "x" else "")
  let held := 511 - mask
  "u=" ++ letters (held / 64) ++ ",g=" ++ letters (held / 8) ++ ",o=" ++ letters held

/-- Sets the mask of rights, or shows it. -/
def setMask (args : List String) (st : State) : State :=
  withOptions "umask" ['S'] args st fun letters args =>
    match args with
    | [] =>
      let digits := Nat.toDigits 8 st.mask
      let text := if letters.contains 'S' then maskText st.mask
        else String.ofList (List.replicate (4 - digits.length) '0' ++ digits)
      (st.print (text ++ "\n")).withStatus 0
    | text :: _ =>
      match maskOf st.mask text with
      | .ok mask => { st with mask, status := 0 }
      | .error fault => st.refuse "umask" fault

end MutationTesting.Shell
