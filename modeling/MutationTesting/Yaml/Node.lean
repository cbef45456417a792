import MutationTesting.Yaml.Token

/-!
# Nodes of YAML

A document is a tree of scalars, sequences and mappings. A node may be named by an anchor; an alias
behind it stands for the same node. Only texts with a single document are read.

## Termination

The readers of nodes consume tokens, so four times their number bounds the nesting of the readers.
-/

namespace MutationTesting.Yaml

/-- A node of a document. -/
inductive Node where
  /-- A scalar with its style and tag. -/
  | scalar (text : String) (style : Style) (tag : Option Tag)
  /-- A sequence. -/
  | sequence (items : List Node)
  /-- A mapping, its entries in order. -/
  | mapping (entries : List (Node × Node))

namespace Node

/-- The node that stands where none is written. -/
def empty : Node :=
  scalar "" .plain none

end Node

/-- What a reader of nodes knows: the abbreviations for tags, the named nodes so far, and the tokens
that are left. A name within the node that it stands for has no node yet. -/
structure Reading where
  /-- The abbreviations. -/
  handles : List (String × Tag)
  /-- The named nodes, the last ones first. -/
  anchors : List (String × Option Node) := []
  /-- The tokens. -/
  tokens : List Token

namespace Reading

/-- The next token. -/
def next? (r : Reading) : Option Token :=
  r.tokens.head?

/-- The reading behind the next token. -/
def skip (r : Reading) : Reading :=
  { r with tokens := r.tokens.drop 1 }

/-- The next token is one of some. -/
def at? (r : Reading) (ts : List Token) : Bool :=
  r.next?.any ts.contains

/-- Names a node, if a name is given. -/
def define (r : Reading) (anchor : Option String) (node : Option Node) : Reading :=
  match anchor with
  | some name => { r with anchors := (name, node) :: r.anchors }
  | none => r

/-- The whole tag that an abbreviation and the rest of a tag stand for. -/
def tag? (r : Reading) (handle : String) (suffix : Tag) : Option Tag :=
  if handle == "" then some suffix
  else (r.handles.lookup handle).map (·.append suffix)

/-- The anchor and the tag in front, in either order. -/
def properties? (r : Reading) : Option (Option String × Option Tag × Reading) :=
  match r.tokens with
  | .anchor a :: .tag h s :: rest => do return (some a, some (← r.tag? h s), { r with tokens := rest })
  | .tag h s :: .anchor a :: rest => do return (some a, some (← r.tag? h s), { r with tokens := rest })
  | .anchor a :: rest => some (some a, none, { r with tokens := rest })
  | .tag h s :: rest => do return (none, some (← r.tag? h s), { r with tokens := rest })
  | _ => some (none, none, r)

mutual

/-- The node in front. Block collections begin only where they are allowed; a sequence without
indentation of its own only behind a key. -/
def node? (block indentless : Bool) : Nat → Reading → Option (Node × Reading)
  | 0, _ => none
  | bound + 1, r =>
    match r.next? with
    | some (.alias name) => do
      let node ← (r.anchors.lookup name).join
      return (node, r.skip)
    | _ => do
      let (anchor, tag, r) ← r.properties?
      match r.next? with
      | some (.scalar text style) =>
        let node := Node.scalar text style tag
        return (node, r.skip.define anchor (some node))
      | t =>
        let collection : Option (Node × Reading) :=
          let inner := r.define anchor none
          if indentless && t == some .blockEntry then indentlessSequence? bound [] inner
          else if t == some .flowSequence then flowSequence? bound true [] inner.skip
          else if t == some .flowMapping then flowMapping? bound true [] inner.skip
          else if block && t == some .blockSequence then blockSequence? bound [] inner.skip
          else if block && t == some .blockMapping then blockMapping? bound [] inner.skip
          else if anchor.isSome || tag.isSome then some (Node.scalar "" .plain tag, inner)
          else none
        let (node, r) ← collection
        return (node, r.define anchor (some node))

/-- The node in front, or the empty one if the next token is one of some. -/
def nodeUnless? (stops : List Token) (block indentless : Bool) :
    Nat → Reading → Option (Node × Reading)
  | 0, _ => none
  | bound + 1, r =>
    if r.at? stops then some (.empty, r) else node? block indentless bound r

/-- The entries of a block sequence; those so far are in reverse. -/
def blockSequence? : Nat → List Node → Reading → Option (Node × Reading)
  | 0, _, _ => none
  | bound + 1, items, r =>
    match r.next? with
    | some .blockEntry => do
      let (item, r) ← nodeUnless? [.blockEntry, .blockEnd] true false bound r.skip
      blockSequence? bound (item :: items) r
    | some .blockEnd => some (.sequence items.reverse, r.skip)
    | _ => none

/-- The entries of a sequence without indentation of its own. -/
def indentlessSequence? : Nat → List Node → Reading → Option (Node × Reading)
  | 0, _, _ => none
  | bound + 1, items, r =>
    match r.next? with
    | some .blockEntry => do
      let (item, r) ← nodeUnless? [.blockEntry, .key, .value, .blockEnd] true false bound r.skip
      indentlessSequence? bound (item :: items) r
    | _ => some (.sequence items.reverse, r)

/-- The entries of a block mapping. -/
def blockMapping? : Nat → List (Node × Node) → Reading → Option (Node × Reading)
  | 0, _, _ => none
  | bound + 1, entries, r =>
    match r.next? with
    | some .key => do
      let stops := [Token.key, .value, .blockEnd]
      let (key, r) ← nodeUnless? stops true true bound r.skip
      if r.next? == some .value then
        let (value, r) ← nodeUnless? stops true true bound r.skip
        blockMapping? bound ((key, value) :: entries) r
      else blockMapping? bound ((key, .empty) :: entries) r
    | some .blockEnd => some (.mapping entries.reverse, r.skip)
    | _ => none

/-- The entries of a flow sequence; a pair among them is a mapping. -/
def flowSequence? : Nat → Bool → List Node → Reading → Option (Node × Reading)
  | 0, _, _, _ => none
  | bound + 1, first, items, r =>
    if r.next? == some .flowSequenceEnd then some (.sequence items.reverse, r.skip)
    else if !first && r.next? != some .flowEntry then none
    else do
      let r := if first then r else r.skip
      match r.next? with
      | some .flowSequenceEnd => some (.sequence items.reverse, r.skip)
      | some .key =>
        let stops := [Token.flowEntry, .flowSequenceEnd]
        let (key, r) ← nodeUnless? (.value :: stops) false false bound r.skip
        if r.next? == some .value then
          let (value, r) ← nodeUnless? stops false false bound r.skip
          flowSequence? bound false (.mapping [(key, value)] :: items) r
        else flowSequence? bound false (.mapping [(key, .empty)] :: items) r
      | _ =>
        let (item, r) ← node? false false bound r
        flowSequence? bound false (item :: items) r

/-- The entries of a flow mapping. -/
def flowMapping? : Nat → Bool → List (Node × Node) → Reading → Option (Node × Reading)
  | 0, _, _, _ => none
  | bound + 1, first, entries, r =>
    if r.next? == some .flowMappingEnd then some (.mapping entries.reverse, r.skip)
    else if !first && r.next? != some .flowEntry then none
    else do
      let r := if first then r else r.skip
      match r.next? with
      | some .flowMappingEnd => some (.mapping entries.reverse, r.skip)
      | some .key =>
        let stops := [Token.flowEntry, .flowMappingEnd]
        let (key, r) ← nodeUnless? (.value :: stops) false false bound r.skip
        if r.next? == some .value then
          let (value, r) ← nodeUnless? stops false false bound r.skip
          flowMapping? bound false ((key, value) :: entries) r
        else flowMapping? bound false ((key, .empty) :: entries) r
      | _ =>
        let (key, r) ← node? false false bound r
        flowMapping? bound false ((key, .empty) :: entries) r

end

/-! ## Documents -/

/-- The tokens behind the directives in front, and the abbreviations that they define. There is one
version at most, which is 1.1 or 1.2, and no abbreviation is defined twice. -/
def directives? : Bool → List (String × Tag) → List Token →
    Option (List (String × Tag) × List Token)
  | versioned, handles, .version major minor :: rest =>
    if versioned || major ≠ 1 || !(minor == 1 || minor == 2) then none
    else directives? true handles rest
  | versioned, handles, .tagHandle handle tagPrefix :: rest =>
    if (handles.lookup handle).isSome then none
    else directives? versioned ((handle, tagPrefix) :: handles) rest
  | _, handles, rest => some (handles, rest)

/-- The abbreviations that hold unless they are defined otherwise. -/
def usualHandles : List (String × Tag) :=
  [("!", .ofString "!"), ("!!", .core "")]

/-- The node of the document in front. Directives stand only before the mark of its start, behind
which it may be empty. -/
def document? (tokens : List Token) : Option (Node × Reading) := do
  let (handles, rest) ← directives? false [] tokens
  let bound := 4 * tokens.length + 4
  match rest with
  | .documentStart :: rest =>
    let r : Reading := { handles := handles ++ usualHandles, tokens := rest }
    match rest with
    | [] => some (.empty, r)
    | .documentStart :: _ => some (.empty, r)
    | .documentEnd :: _ => some (.empty, r)
    | .version .. :: _ => some (.empty, r)
    | .tagHandle .. :: _ => some (.empty, r)
    | _ => node? true false bound r
  | rest =>
    if rest.length ≠ tokens.length then none
    else node? true false bound { handles := usualHandles, tokens }

end Reading

/-- The only document of a text. -/
def read? (text : String) : Option Node := do
  let (node, r) ← Reading.document? (← tokens? text)
  if r.tokens.all (· == .documentEnd) then some node else none

end MutationTesting.Yaml
