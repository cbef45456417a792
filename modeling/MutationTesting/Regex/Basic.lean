/-!
# Regular expressions

Expressions that scripts search texts with. They differ from the patterns of paths: groups remember
what they matched and can be asked for again, and of several matches that begin at one place the
longest counts.

An expression leads from a place in a text to the places behind what it matches. A repetition goes
on level by level and never comes back to a place, so the length of the text bounds its levels.
-/

namespace MutationTesting

/-- Where an edge of a word has to be. -/
inductive WordEdge where
  /-- At its beginning. -/
  | first
  /-- At its end. -/
  | last
  /-- At either. -/
  | either
  /-- At neither. -/
  | neither
  deriving DecidableEq, Repr

/-- A regular expression. -/
inductive Regex where
  /-- Nothing. -/
  | empty
  /-- A character. -/
  | char (c : Char)
  /-- Any character. -/
  | any
  /-- A character of some ranges, or of none of them. -/
  | set (negated : Bool) (ranges : List (Char × Char))
  /-- The beginning of the text. -/
  | start
  /-- The end of the text. -/
  | finish
  /-- An edge of a word. -/
  | edge (edge : WordEdge)
  /-- What the group of a number matches. -/
  | group (index : Nat) (r : Regex)
  /-- What the group of a number has matched. -/
  | again (index : Nat)
  /-- One expression behind another. -/
  | seq (a b : Regex)
  /-- One of two expressions. -/
  | alt (a b : Regex)
  /-- An expression several times. -/
  | many (least : Nat) (most? : Option Nat) (r : Regex)
  deriving DecidableEq, Repr, Inhabited

namespace Regex

/-- A character of a word. -/
def isWordChar (c : Char) : Bool :=
  c.isAlphanum || c == '_'

/-! ## Places -/

/-- A place in a text. -/
structure Place where
  /-- The number of characters in front. -/
  position : Nat
  /-- The character in front. -/
  previous? : Option Char
  /-- The characters behind. -/
  rest : List Char
  /-- What groups have matched, the last match first. -/
  groups : List (Nat × List Char) := []

namespace Place

/-- The place behind some characters. -/
def skip (p : Place) (count : Nat) : Place :=
  if count = 0 then p
  else
    { p with
      position := p.position + count
      previous? := (p.rest.drop (count - 1)).head?
      rest := p.rest.drop count }

/-- The place behind a character that is as it should be. -/
def take? (p : Place) (accepts : Char → Bool) : List Place :=
  match p.rest with
  | c :: rest =>
    if accepts c then [{ p with position := p.position + 1, previous? := some c, rest }] else []
  | [] => []

/-- The text from a place to a later one. -/
def textTo (p q : Place) : List Char :=
  p.rest.take (q.position - p.position)

/-- An edge of a word is at a place. -/
def isAtEdge (p : Place) (edge : WordEdge) : Bool :=
  let before := p.previous?.any isWordChar
  let behind := p.rest.head?.any isWordChar
  match edge with
  | .first => !before && behind
  | .last => before && !behind
  | .either => before != behind
  | .neither => before == behind

end Place

/-- The first of the places with each position. -/
def distinct : List Place → List Nat → List Place
  | [], _ => []
  | p :: ps, seen =>
    if seen.contains p.position then distinct ps seen else p :: distinct ps (p.position :: seen)

/-! ## Matching -/

/-- The places behind repetitions that lead from one place to the next ones: those behind more of
them come first. -/
def levels (next : Place → List Place) (least : Nat) (most? : Option Nat) :
    Nat → Nat → List Nat → List Place → List Place
  | 0, _, _, _ => []
  | bound + 1, count, seen, places =>
    if places.isEmpty then []
    else
      let seen := if least ≤ count then places.map (·.position) ++ seen else seen
      let further := if most?.any (· ≤ count) then [] else distinct (places.flatMap next) seen
      levels next least most? bound (count + 1) seen further
        ++ (if least ≤ count then places else [])

/-- Two characters are the same, possibly but for their case. -/
def same (ignoresCase : Bool) (a b : Char) : Bool :=
  a == b || (ignoresCase && a.toLower == b.toLower)

/-- A character is of some ranges, possibly but for its case. -/
def inRanges (ignoresCase : Bool) (ranges : List (Char × Char)) (c : Char) : Bool :=
  let holds (c : Char) := ranges.any fun (a, b) => a ≤ c && c ≤ b
  holds c || (ignoresCase && (holds c.toLower || holds c.toUpper))

/-- The places behind what an expression matches from a place on, those that are preferred first. -/
def ends (ignoresCase : Bool) : Regex → Place → List Place
  | .empty, p => [p]
  | .char a, p => p.take? (same ignoresCase a)
  | .any, p => p.take? fun _ => true
  | .set negated ranges, p => p.take? fun c => inRanges ignoresCase ranges c != negated
  | .start, p => if p.previous?.isNone then [p] else []
  | .finish, p => if p.rest.isEmpty then [p] else []
  | .edge e, p => if p.isAtEdge e then [p] else []
  | .group index r, p =>
    (ends ignoresCase r p).map fun q => { q with groups := (index, p.textTo q) :: q.groups }
  | .again index, p =>
    match p.groups.lookup index with
    | some text =>
      let found := p.rest.take text.length
      if found.length = text.length && (found.zip text).all fun (a, b) => same ignoresCase a b then
        [p.skip text.length]
      else []
    | none => []
  | .seq a b, p => distinct ((ends ignoresCase a p).flatMap (ends ignoresCase b)) []
  | .alt a b, p => distinct (ends ignoresCase a p ++ ends ignoresCase b p) []
  | .many least most? r, p =>
    levels (fun q => ends ignoresCase r q) least most? (least + p.rest.length + 2) 0 [] [p]

/-- The last of some places, the first one of those that are equally far. -/
def furthest? : List Place → Option Place
  | [] => none
  | p :: ps =>
    match furthest? ps with
    | some q => some (if p.position < q.position then q else p)
    | none => some p

/-- Where an expression matches: the place of the beginning and the place behind. -/
structure Match where
  /-- The place of the beginning. -/
  first : Place
  /-- The place behind. -/
  last : Place

namespace Match

/-- The matched text. -/
def text (m : Match) : List Char :=
  m.first.textTo m.last

/-- What the group of a number matched; the whole match has the number zero. -/
def group (m : Match) (index : Nat) : List Char :=
  if index = 0 then m.text else (m.last.groups.lookup index).getD []

end Match

/-- The longest match that begins at a place. -/
def matchAt? (ignoresCase : Bool) (r : Regex) (p : Place) : Option Match :=
  (furthest? (ends ignoresCase r p)).map fun last => { first := p, last }

/-- The first match from a place on, with a bound on the number of places that are tried. -/
def searchFrom (ignoresCase : Bool) (r : Regex) : Nat → Place → Option Match
  | 0, _ => none
  | bound + 1, p =>
    match matchAt? ignoresCase r p with
    | some m => some m
    | none => if p.rest.isEmpty then none else searchFrom ignoresCase r bound (p.skip 1)

/-- The beginning of a text. -/
def Place.ofText (cs : List Char) : Place :=
  { position := 0, previous? := none, rest := cs }

/-- The first match at or behind a place. -/
def search? (ignoresCase : Bool) (r : Regex) (p : Place) : Option Match :=
  searchFrom ignoresCase r (p.rest.length + 1) { p with groups := [] }

/-- Every match in a text, one behind the other: an empty one does not follow another one at once,
with a bound on their number. -/
def matchesFrom (ignoresCase : Bool) (r : Regex) : Nat → Option Nat → Place → List Match
  | 0, _, _ => []
  | bound + 1, ended?, p =>
    match search? ignoresCase r p with
    | none => []
    | some m =>
      let isEmpty := m.first.position == m.last.position
      if isEmpty && ended? == some m.first.position then
        if m.last.rest.isEmpty then [] else matchesFrom ignoresCase r bound none (m.last.skip 1)
      else if isEmpty then
        m :: (if m.last.rest.isEmpty then []
          else matchesFrom ignoresCase r bound none (m.last.skip 1))
      else m :: matchesFrom ignoresCase r bound (some m.last.position) m.last

/-- Every match in a text, one behind the other. -/
def allMatches (ignoresCase : Bool) (r : Regex) (cs : List Char) : List Match :=
  matchesFrom ignoresCase r (2 * cs.length + 2) none (Place.ofText cs)

end Regex

end MutationTesting
