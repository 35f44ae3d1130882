import WaypointFlight.Toml.Number

namespace WaypointFlight.Toml

structure Section where
  path : List String
  isArray : Bool
  entries : Entries

def isBlank : Token → Bool
  | .blank _ => true
  | _ => false

def isSpace : Token → Bool
  | .blank _ | .newline | .comment => true
  | _ => false

def skipBlank (ts : List Token) : List Token := ts.dropWhile isBlank

def skipSpace (ts : List Token) : List Token := ts.dropWhile isSpace

def key : List Token → Option (String × List Token)
  | .word s :: ts => some (s, ts)
  | .text s false :: ts => some (s, ts)
  | _ => none

def dottedKey : Nat → List Token → Option (List String × List Token)
  | 0, _ => none
  | fuel + 1, ts => do
    let (k, ts) ← key ts
    match skipBlank ts with
    | .period :: ts => do
      let (ks, ts) ← dottedKey fuel (skipBlank ts)
      return (k :: ks, ts)
    | ts => return ([k], ts)

def keyOfValue (fuel : Nat) (ts : List Token) : Option (List String × List Token) := do
  let (ks, ts) ← dottedKey fuel ts
  match skipBlank ts with
  | .equals :: ts => return (ks, skipBlank ts)
  | _ => none

def wordValue (w : String) (ts : List Token) : Option (Value × List Token) :=
  if w = "true" then some (.boolean true, ts)
  else if w = "false" then some (.boolean false, ts)
  else
    match w.toList with
    | [] => none
    | c :: rest =>
      if c = '-' ∨ c.isDigit ∨ w = "inf" ∨ w = "nan" then numberOrMoment (c :: rest) ts else none

mutual

/-- Values nest no deeper than there are tokens, and the count of these is the fuel. -/
def value : Nat → List Token → Option (Value × List Token)
  | 0, _ => none
  | fuel + 1, ts =>
    match ts with
    | .text s _ :: ts => some (.text s, ts)
    | .word w :: ts => wordValue w ts
    | .plus :: .word w :: ts => number w.toList ts
    | .leftBracket :: ts => items fuel [] ts
    | .leftBrace :: ts =>
      match skipBlank ts with
      | .rightBrace :: ts => some (.table .inline [], ts)
      | ts => members fuel [] ts
    | _ => none

/-- The items of an array up to its closing bracket. A comma may follow the last. -/
def items : Nat → List Value → List Token → Option (Value × List Token)
  | 0, _, _ => none
  | fuel + 1, found, ts =>
    match skipSpace ts with
    | .rightBracket :: ts => some (.array found, ts)
    | ts => do
      let (v, ts) ← value fuel ts
      match skipSpace ts with
      | .comma :: ts => items fuel (found ++ [v]) ts
      | .rightBracket :: ts => some (.array (found ++ [v]), ts)
      | _ => none

/-- The members of an inline table up to its closing brace. No comma may follow the last. -/
def members : Nat → Entries → List Token → Option (Value × List Token)
  | 0, _, _ => none
  | fuel + 1, found, ts => do
    let (ks, ts) ← keyOfValue fuel ts
    let (v, ts) ← value fuel ts
    let found ← insertAt ks v found
    match skipBlank ts with
    | .rightBrace :: ts => some (.table .inline found, ts)
    | .comma :: ts => members fuel found (skipBlank ts)
    | _ => none

end

def endOfLine (ts : List Token) : Option (List Token) :=
  match skipBlank ts with
  | .comment :: .newline :: ts => some ts
  | .comment :: [] => some []
  | .newline :: ts => some ts
  | [] => some []
  | _ => none

def header (fuel : Nat) (isArray : Bool) (ts : List Token) : Option (Section × List Token) := do
  let (path, ts) ← dottedKey fuel (skipBlank ts)
  match isArray, ts with
  | true, .rightBracket :: .rightBracket :: ts => return (⟨path, true, []⟩, ← endOfLine ts)
  | false, .rightBracket :: ts => return (⟨path, false, []⟩, ← endOfLine ts)
  | _, _ => none

def sections : Nat → Section → List Token → Option (List Section)
  | 0, _, _ => none
  | fuel + 1, current, ts =>
    match skipSpace ts with
    | [] => some [current]
    | .leftBracket :: .leftBracket :: ts => do
      let (next, ts) ← header fuel true ts
      return current :: (← sections fuel next ts)
    | .leftBracket :: ts => do
      let (next, ts) ← header fuel false ts
      return current :: (← sections fuel next ts)
    | ts => do
      let (ks, ts) ← keyOfValue fuel ts
      let (v, ts) ← value fuel ts
      let entries ← insertAt ks v current.entries
      sections fuel { current with entries } (← endOfLine ts)

def sectionsOf (ts : List Token) : Option (List Section) :=
  sections (ts.length + 2) ⟨[], false, []⟩ ts

end WaypointFlight.Toml
