import ConfigWords.Yaml.Token

/-! The nodes of a YAML document.
Each reader takes the tokens that are left and gives a node with the tokens behind it; its first
argument bounds the number of steps. -/
namespace ConfigWords.Yaml

inductive Node
  | scalar (plain : Bool) (content : String)
  | list (items : List Node)
  | mapping (entries : List (Node × Node))
deriving Inhabited

def Node.absent : Node := .scalar true ""

def nextIn (allowed : List Token) : List Token → Bool
  | [] => false
  | t :: _ => allowed.contains t

mutual

/-- A node. Blocks are allowed outside brackets only, a list without indentation only as a part
of a mapping. -/
def takeNode (block bare : Bool) : Nat → List Token → Except Fault (Node × List Token)
  | 0, _ => .error .malformed
  | _ + 1, [] => .error .malformed
  | steps + 1, t :: rest =>
    match t with
    | .scalar plain content => .ok (.scalar plain content, rest)
    | .flowListStart => (takeFlowItems true steps rest).map fun r => (.list r.1, r.2)
    | .flowMappingStart => (takeFlowEntries true steps rest).map fun r => (.mapping r.1, r.2)
    | .blockListStart =>
      if block then (takeBlockItems steps rest).map fun r => (.list r.1, r.2)
      else .error .malformed
    | .blockMappingStart =>
      if block then (takeBlockEntries steps rest).map fun r => (.mapping r.1, r.2)
      else .error .malformed
    | .blockEntry =>
      if bare then (takeBareItems steps (t :: rest)).map fun r => (.list r.1, r.2)
      else .error .malformed
    | _ => .error .malformed

def takeNodeUnless (stops : List Token) (block bare : Bool) :
    Nat → List Token → Except Fault (Node × List Token)
  | 0, _ => .error .malformed
  | steps + 1, ts => if nextIn stops ts then .ok (.absent, ts) else takeNode block bare steps ts

def takeBlockItems : Nat → List Token → Except Fault (List Node × List Token)
  | 0, _ => .error .malformed
  | steps + 1, .blockEntry :: rest => do
    let (item, rest) ← takeNodeUnless [.blockEntry, .blockEnd] true false steps rest
    let (items, rest) ← takeBlockItems steps rest
    return (item :: items, rest)
  | _ + 1, .blockEnd :: rest => .ok ([], rest)
  | _ + 1, _ => .error .malformed

/-- The items of a list that is not indented; it ends where no further dash stands. -/
def takeBareItems : Nat → List Token → Except Fault (List Node × List Token)
  | 0, _ => .error .malformed
  | steps + 1, .blockEntry :: rest => do
    let (item, rest) ←
      takeNodeUnless [.blockEntry, .key, .value, .blockEnd] true false steps rest
    let (items, rest) ← takeBareItems steps rest
    return (item :: items, rest)
  | _ + 1, ts => .ok ([], ts)

def takeBlockEntries : Nat → List Token → Except Fault (List (Node × Node) × List Token)
  | 0, _ => .error .malformed
  | steps + 1, .key :: rest => do
    let (key, rest) ← takeNodeUnless [.key, .value, .blockEnd] true true steps rest
    let (value, rest) ← takeValue [.key, .value, .blockEnd] true steps rest
    let (entries, rest) ← takeBlockEntries steps rest
    return ((key, value) :: entries, rest)
  | _ + 1, .blockEnd :: rest => .ok ([], rest)
  | _ + 1, _ => .error .malformed

def takeValue (stops : List Token) (block : Bool) :
    Nat → List Token → Except Fault (Node × List Token)
  | 0, _ => .error .malformed
  | steps + 1, .value :: rest => takeNodeUnless stops block block steps rest
  | _ + 1, ts => .ok (.absent, ts)

/-- The items of a list in brackets up to the closing one. A key among them makes the item a
mapping of one entry. -/
def takeFlowItems (first : Bool) : Nat → List Token → Except Fault (List Node × List Token)
  | 0, _ => .error .malformed
  | _ + 1, .flowListEnd :: rest => .ok ([], rest)
  | steps + 1, ts => do
    let ts ← if first then pure ts else takeSeparator ts
    match ts with
    | .flowListEnd :: rest => return ([], rest)
    | .key :: rest =>
      let (key, rest) ←
        takeNodeUnless [.value, .flowEntry, .flowListEnd] false false steps rest
      let (value, rest) ← takeValue [.flowEntry, .flowListEnd] false steps rest
      let (items, rest) ← takeFlowItems false steps rest
      return (.mapping [(key, value)] :: items, rest)
    | ts =>
      let (item, rest) ← takeNode false false steps ts
      let (items, rest) ← takeFlowItems false steps rest
      return (item :: items, rest)

def takeFlowEntries (first : Bool) :
    Nat → List Token → Except Fault (List (Node × Node) × List Token)
  | 0, _ => .error .malformed
  | _ + 1, .flowMappingEnd :: rest => .ok ([], rest)
  | steps + 1, ts => do
    let ts ← if first then pure ts else takeSeparator ts
    match ts with
    | .flowMappingEnd :: rest => return ([], rest)
    | .key :: rest =>
      let (key, rest) ←
        takeNodeUnless [.value, .flowEntry, .flowMappingEnd] false false steps rest
      let (value, rest) ← takeValue [.flowEntry, .flowMappingEnd] false steps rest
      let (entries, rest) ← takeFlowEntries false steps rest
      return ((key, value) :: entries, rest)
    | ts =>
      let (key, rest) ← takeNode false false steps ts
      let (entries, rest) ← takeFlowEntries false steps rest
      return ((key, .absent) :: entries, rest)

def takeSeparator : List Token → Except Fault (List Token)
  | .flowEntry :: rest => .ok rest
  | _ => .error .malformed

end

def documentNode (ts : List Token) : Except Fault (Option Node) := do
  let bound := 4 * ts.length + 4
  let finish (r : Node × List Token) : Except Fault (Option Node) :=
    if r.2.all (· == .documentEnd) then .ok (some r.1) else .error .malformed
  match ts with
  | [] => return none
  | .documentStart :: rest =>
    if rest.isEmpty || nextIn [.documentStart, .documentEnd] rest then finish (.absent, rest)
    else finish (← takeNode true false bound rest)
  | ts => finish (← takeNode true false bound ts)

end ConfigWords.Yaml
