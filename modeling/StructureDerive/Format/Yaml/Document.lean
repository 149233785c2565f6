import StructureDerive.Format.Yaml.Node
import StructureDerive.Format.Yaml.Token

/-! # YAML documents

The node of a single document, and its value: block and flow collections, and scalars. What is left
out between two tokens is an empty scalar.
-/
namespace StructureDerive.Yaml

/-- Where a node may stand. Items of a sequence may follow a key of a block without being indented
further. -/
inductive NodePlace where
  | block
  | underKey
  | flow
deriving DecidableEq

def endsBlockNode : List Token → Bool
  | .key :: _ | .value :: _ | .closeBlock :: _ => true
  | _ => false

def endsItem : List Token → Bool
  | .entry :: _ | .closeBlock :: _ => true
  | _ => false

def endsFlowNode (closing : Token) : List Token → Bool
  | .comma :: _ => true
  | t :: _ => t = closing
  | [] => false

mutual

/-- A node takes at least one token, so the number of tokens is fuel enough. -/
def node : Nat → NodePlace → List Token → Option (Node × List Token)
  | 0, _, _ => none
  | fuel + 1, place, tokens =>
    match place, tokens with
    | _, .plain s :: rest => some (.plain s, rest)
    | _, .quoted s :: rest => some (.quoted s, rest)
    | _, .openFlowSequence :: rest => flowItems fuel true [] rest
    | _, .openFlowMapping :: rest => flowPairs fuel true [] rest
    | .underKey, .entry :: rest => items fuel true [] (.entry :: rest)
    | .flow, _ => none
    | _, .openSequence :: rest => items fuel false [] rest
    | _, .openMapping :: rest => pairs fuel [] rest
    | _, _ => none

def nodeUnless : Nat → Bool → NodePlace → List Token → Option (Node × List Token)
  | 0, _, _, _ => none
  | fuel + 1, absent, place, tokens =>
    if absent then some (.absent, tokens) else node fuel place tokens

/-- The items of a block sequence. One that is not indented has no closing token. -/
def items : Nat → Bool → List Node → List Token → Option (Node × List Token)
  | 0, _, _, _ => none
  | fuel + 1, unindented, found, tokens =>
    match tokens with
    | .entry :: rest => do
      let absent := endsItem rest || (unindented && endsBlockNode rest)
      let (item, rest) ← nodeUnless fuel absent .block rest
      items fuel unindented (found ++ [item]) rest
    | .closeBlock :: rest => some (.sequence found, if unindented then tokens else rest)
    | _ => if unindented then some (.sequence found, tokens) else none

def pairs : Nat → List (Node × Node) → List Token → Option (Node × List Token)
  | 0, _, _ => none
  | fuel + 1, found, tokens =>
    match tokens with
    | .key :: rest => do
      let (key, rest) ← nodeUnless fuel (endsBlockNode rest) .underKey rest
      let (value, rest) ← match rest with
        | .value :: rest => nodeUnless fuel (endsBlockNode rest) .underKey rest
        | rest => some (.absent, rest)
      pairs fuel (found ++ [(key, value)]) rest
    | .closeBlock :: rest => some (.mapping found, rest)
    | _ => none

/-- The items of a flow sequence. A pair on its own is a table of one key. -/
def flowItems : Nat → Bool → List Node → List Token → Option (Node × List Token)
  | 0, _, _, _ => none
  | fuel + 1, first, found, tokens =>
    match tokens with
    | .closeFlowSequence :: rest => some (.sequence found, rest)
    | _ => do
      let tokens ← afterComma first tokens
      match tokens with
      | .closeFlowSequence :: rest => return (.sequence found, rest)
      | .key :: rest =>
        let (key, value, rest) ← flowPair fuel .closeFlowSequence rest
        flowItems fuel false (found ++ [.mapping [(key, value)]]) rest
      | _ =>
        let (item, rest) ← node fuel .flow tokens
        flowItems fuel false (found ++ [item]) rest

def flowPairs : Nat → Bool → List (Node × Node) → List Token → Option (Node × List Token)
  | 0, _, _, _ => none
  | fuel + 1, first, found, tokens =>
    match tokens with
    | .closeFlowMapping :: rest => some (.mapping found, rest)
    | _ => do
      let tokens ← afterComma first tokens
      match tokens with
      | .closeFlowMapping :: rest => return (.mapping found, rest)
      | .key :: rest =>
        let (key, value, rest) ← flowPair fuel .closeFlowMapping rest
        flowPairs fuel false (found ++ [(key, value)]) rest
      | _ =>
        let (key, rest) ← node fuel .flow tokens
        flowPairs fuel false (found ++ [(key, .absent)]) rest

def flowPair : Nat → Token → List Token → Option (Node × Node × List Token)
  | 0, _, _ => none
  | fuel + 1, closing, tokens => do
    let noKey := endsFlowNode closing tokens || endsFlowNode .value tokens
    let (key, rest) ← nodeUnless fuel noKey .flow tokens
    match rest with
    | .value :: rest =>
      let (value, rest) ← nodeUnless fuel (endsFlowNode closing rest) .flow rest
      return (key, value, rest)
    | _ => return (key, .absent, rest)

def afterComma : Bool → List Token → Option (List Token)
  | true, tokens => some tokens
  | false, .comma :: rest => some rest
  | false, _ => none

end

def isOver (tokens : List Token) : Bool := tokens.all (· = .endDocument)

def ofTokens (tokens : List Token) : Option Node := do
  let fuel := 3 * tokens.length + 3
  let (root, rest) ← match tokens with
    | [] => some (.absent, [])
    | .startDocument :: rest =>
      match rest with
      | [] | .endDocument :: _ | .startDocument :: _ => some (.absent, rest)
      | _ => node fuel .block rest
    | _ => node fuel .block tokens
  if isOver rest then some root else none

/-- The value of a text, unless it is malformed, nested too deep or holds more than one document. A
recursion goes down two steps for each collection, and ten before the first one. -/
def parse (depthLimit : Nat) (s : String) : Option Value := do
  let root ← ofTokens (← Token.scan s.toList)
  if depthLimit < 2 * root.depth + 10 then none
  root.value?

end StructureDerive.Yaml
