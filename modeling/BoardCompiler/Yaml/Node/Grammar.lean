/-
# BoardCompiler.Yaml.Node.Grammar — the tokens of a document as its tree

One function per production, each from the tokens that are left to a tree and
the tokens after it. A node that is not written is an empty plain scalar. `fuel`
bounds the number of productions, which is linear in the number of tokens.
-/
import BoardCompiler.Yaml.Node

namespace BoardCompiler.Yaml

set_option autoImplicit false

/-- The tokens that are left, and the anchors seen so far with their numbers. -/
structure Input where
  tokens : List Token
  anchors : List (List Char × Nat)

/-- What tag handles stand for. -/
abbrev TagHandles := List (List Char × List UInt8)

def asciiBytes (text : String) : List UInt8 := text.toList.map fun c => UInt8.ofNat c.toNat

/-- The handles every document has. -/
def standardHandles : TagHandles :=
  [(['!'], asciiBytes "!"), (['!', '!'], asciiBytes "tag:yaml.org,2002:")]

namespace Input

def kind? (i : Input) : Option TokenKind := i.tokens.head?.map Token.kind

def next (i : Input) : Input := { i with tokens := i.tokens.tail }

/-- Where the next token starts. -/
def mark (i : Input) : Mark := (i.tokens.head?.map Token.start).getD .start

/-- Where the next token ends. -/
def stop (i : Input) : Mark := (i.tokens.head?.map Token.stop).getD .start

def isAt (i : Input) (kinds : List TokenKind) : Bool :=
  match i.kind? with
  | some kind => kinds.contains kind
  | none => true

/-- Number an anchor: one name keeps one entry, and its number is how many other
names and itself came before. -/
def number (i : Input) (name : List Char) : Nat × Input :=
  let n := i.anchors.length
  let anchors :=
    if i.anchors.any (·.1 == name) then i.anchors.map fun a => if a.1 == name then (name, n) else a
    else i.anchors ++ [(name, n)]
  (n, { i with anchors })

def anchorNumber? (i : Input) (name : List Char) : Option Nat :=
  (i.anchors.find? (·.1 == name)).map (·.2)

/-- An anchor, if the next token is one. -/
def anchor (i : Input) : Option Nat × Input :=
  match i.kind? with
  | some (.anchor name) =>
    let (n, i) := i.next.number name
    (some n, i)
  | _ => (none, i)

/-- A tag, if the next token is one; its handle must be known. -/
def tag? (handles : TagHandles) (i : Input) : Option (NodeTag × Input) :=
  match i.kind? with
  | some (.tag [] suffix) => some (.ofBytes suffix, i.next)
  | some (.tag handle suffix) =>
    (handles.find? (·.1 == handle)).map fun h => (.ofBytes (h.2 ++ suffix), i.next)
  | _ => some (.none, i)

/-- An anchor and a tag in either order, and whether any was there. -/
def properties? (handles : TagHandles) (i : Input) : Option (Properties × Bool × Input) := do
  let (anchor, i₁) := i.anchor
  let (tag, i₂) ← i₁.tag? handles
  let (anchor, i₃) := if anchor.isNone then i₂.anchor else (anchor, i₂)
  return (⟨anchor, tag⟩, i₃.tokens.length < i.tokens.length, i₃)

end Input

open TokenKind in
mutual

/-- A node. `block` allows block collections, `indentless` a block sequence that is
no further right than its key. -/
def node? (handles : TagHandles) : Nat → (block indentless : Bool) → Input → Option (Node × Input)
  | 0, _, _, _ => none
  | fuel + 1, block, indentless, i =>
    match i.kind? with
    | some (aliasOf name) => (i.anchorNumber? name).map fun n => (.aliasOf i.mark n, i.next)
    | _ =>
      match i.properties? handles with
      | none => none
      | some (p, any, after) =>
        match after.kind? with
        | some (scalar plain text) => some (.scalar i.mark p plain text, after.next)
        | some flowSequenceStart =>
          (flowItems? handles fuel true after.next).map fun (items, rest) =>
            (.sequence i.mark p items, rest)
        | some flowMappingStart =>
          (flowEntries? handles fuel true after.next).map fun (entries, rest) =>
            (.mapping i.mark p entries, rest)
        | some kind =>
          if indentless && kind = blockEntry then
            (indentlessItems? handles fuel after).map fun (items, rest) =>
              (.sequence i.mark p items, rest)
          else if block && kind = blockSequenceStart then
            (blockItems? handles fuel after.next).map fun (items, rest) =>
              (.sequence i.mark p items, rest)
          else if block && kind = blockMappingStart then
            (blockEntries? handles fuel after.next).map fun (entries, rest) =>
              (.mapping i.mark p entries, rest)
          else if any then some (.scalar i.mark p true [], after)
          else none
        | none => none

/-- The items of a block sequence and its end. -/
def blockItems? (handles : TagHandles) : Nat → Input → Option (List Node × Input)
  | 0, _ => none
  | fuel + 1, i =>
    match i.kind? with
    | some blockEnd => some ([], i.next)
    | some blockEntry => do
      let (item, rest) ←
        if i.next.isAt [blockEntry, blockEnd] then some (.missing i.stop, i.next)
        else node? handles fuel true false i.next
      let (items, rest) ← blockItems? handles fuel rest
      return (item :: items, rest)
    | _ => none

/-- The items of a block sequence that nothing but the next key ends. -/
def indentlessItems? (handles : TagHandles) : Nat → Input → Option (List Node × Input)
  | 0, _ => none
  | fuel + 1, i =>
    match i.kind? with
    | some blockEntry => do
      let (item, rest) ←
        if i.next.isAt [blockEntry, key, value, blockEnd] then some (.missing i.stop, i.next)
        else node? handles fuel true false i.next
      let (items, rest) ← indentlessItems? handles fuel rest
      return (item :: items, rest)
    | _ => some ([], i)

/-- The entries of a block mapping and its end. -/
def blockEntries? (handles : TagHandles) : Nat → Input → Option (List (Node × Node) × Input)
  | 0, _ => none
  | fuel + 1, i =>
    match i.kind? with
    | some blockEnd => some ([], i.next)
    | some key => do
      let (k, rest) ←
        if i.next.isAt [key, value, blockEnd] then some (.missing i.stop, i.next)
        else node? handles fuel true true i.next
      let (v, rest) ←
        if rest.kind? = some value then
          if rest.next.isAt [key, value, blockEnd] then some (.missing rest.stop, rest.next)
          else node? handles fuel true true rest.next
        else some (.missing rest.mark, rest)
      let (entries, rest) ← blockEntries? handles fuel rest
      return ((k, v) :: entries, rest)
    | _ => none

/-- The items of a flow sequence and its bracket. A key among them starts a mapping
of one entry; where that key is missing, the token in its place is passed over. -/
def flowItems? (handles : TagHandles) : Nat → (first : Bool) → Input → Option (List Node × Input)
  | 0, _, _ => none
  | fuel + 1, first, i =>
    if i.kind? = some flowSequenceEnd then some ([], i.next)
    else do
      let i ← if first then some i else if i.kind? = some flowEntry then some i.next else none
      if i.kind? = some flowSequenceEnd then return ([], i.next)
      let (item, rest) ←
        if i.kind? = some key then do
          let (k, rest) ←
            if i.next.isAt [value, flowEntry, flowSequenceEnd] then
              some (.missing i.next.stop, i.next.next)
            else node? handles fuel false false i.next
          let (v, rest) ←
            if rest.kind? = some value then
              if rest.next.isAt [flowEntry, flowSequenceEnd] then
                some (.missing rest.next.mark, rest.next)
              else node? handles fuel false false rest.next
            else some (.missing rest.mark, rest)
          some (Node.mapping i.mark .none [(k, v)], rest)
        else node? handles fuel false false i
      let (items, rest) ← flowItems? handles fuel false rest
      return (item :: items, rest)

/-- The entries of a flow mapping and its brace. -/
def flowEntries? (handles : TagHandles) :
    Nat → (first : Bool) → Input → Option (List (Node × Node) × Input)
  | 0, _, _ => none
  | fuel + 1, first, i =>
    if i.kind? = some flowMappingEnd then some ([], i.next)
    else do
      let i ← if first then some i else if i.kind? = some flowEntry then some i.next else none
      if i.kind? = some flowMappingEnd then return ([], i.next)
      let (entry, rest) ←
        if i.kind? = some key then do
          let (k, rest) ←
            if i.next.isAt [value, flowEntry, flowMappingEnd] then
              some (.missing i.next.mark, i.next)
            else node? handles fuel false false i.next
          let (v, rest) ←
            if rest.kind? = some value then
              if rest.next.isAt [flowEntry, flowMappingEnd] then
                some (.missing rest.next.mark, rest.next)
              else node? handles fuel false false rest.next
            else some (.missing rest.mark, rest)
          some ((k, v), rest)
        else do
          let (k, rest) ← node? handles fuel false false i
          some ((k, .missing rest.mark), rest)
      let (entries, rest) ← flowEntries? handles fuel false rest
      return (entry :: entries, rest)

end

/-- The directives in front of a document: at most one version, which is 1.1 or
1.2, and every tag handle once. -/
def directives? : List Token → Bool → TagHandles → Option (TagHandles × List Token)
  | ⟨.versionDirective major minor, _, _⟩ :: rest, versioned, handles =>
    if versioned || major ≠ 1 || !(minor == 1 || minor == 2) then none
    else directives? rest true handles
  | ⟨.tagDirective handle expansion, _, _⟩ :: rest, versioned, handles =>
    if handles.any (·.1 == handle) then none
    else directives? rest versioned (handles ++ [(handle, expansion)])
  | rest, _, handles =>
    some (handles ++ standardHandles.filter fun h => !handles.any (·.1 == h.1), rest)

/-- The one document of a text; a text without any has the missing node. -/
def document? (tokens : List Token) : Option (Option Node) := do
  let fuel := 3 * tokens.length + 3
  let ends := fun (i : Input) =>
    match i.tokens.dropWhile fun t => t.kind == .documentEnd with
    | ⟨.streamEnd, _, _⟩ :: _ => true
    | _ => false
  let (handles, rest) ← directives? tokens false []
  let i : Input := ⟨rest, []⟩
  match i.kind? with
  | some .streamEnd => if rest.length = tokens.length then return none else none
  | some .documentStart =>
    let (root, i) ←
      if i.next.isAt [.documentStart, .documentEnd, .streamEnd] then some (.missing i.next.mark, i.next)
      else
        match i.next.kind? with
        | some (.versionDirective _ _) => some (.missing i.next.mark, i.next)
        | some (.tagDirective _ _) => some (.missing i.next.mark, i.next)
        | _ => node? handles fuel true false i.next
    if ends i then return some root else none
  | _ =>
    if rest.length ≠ tokens.length then none
    let (root, i) ← node? handles fuel true false i
    if ends i then return some root else none

end BoardCompiler.Yaml
