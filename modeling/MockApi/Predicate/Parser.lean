import MockApi.Predicate.Lexer
import MockApi.Text.Quoted

/-!
# From tokens to expressions

* `parseTokens` : the expression that tokens denote;
* `parse` : the expression that a source denotes.

The grammar, from the loosest to the tightest: choices and functions, `or`, `and`, `not`,
comparisons, the binary operators in six levels (`binaryOps`), signs, powers, and then names,
literals and brackets with what may follow them. Every function of the parser takes the tokens and
answers what it has read together with the tokens that are left. Each of their calls costs one unit
of fuel, and `parseTokens` gives more than any expression of that many tokens needs.
-/

namespace MockApi.Predicate

/-- The tokens after an operator or delimiter that comes next. -/
def mark? (text : String) : List Token → Option (List Token)
  | .mark t :: rest => if t = text then some rest else none
  | _ => none

def word? (text : String) : List Token → Option (List Token)
  | .word t :: rest => if t = text then some rest else none
  | _ => none

/-- A name that comes next, and the tokens after it. -/
def name? : List Token → Option (String × List Token)
  | .name id :: rest => some (id, rest)
  | _ => none

def atMark (text : String) (ts : List Token) : Bool := (mark? text ts).isSome

def atClause (ts : List Token) : Bool := (word? "for" ts).isSome || (word? "async" ts).isSome

/-- A name with a mark behind it that come next, and the tokens after both. -/
def nameWith? (text : String) (ts : List Token) : Option (String × List Token) := do
  let (id, rest) ← name? ts
  let rest ← mark? text rest
  return (id, rest)

/-- The binary operators of each level, from the loosest to the tightest. -/
def binaryOps : Nat → List (String × BinaryOp)
  | 0 => [("|", .foreign "BitOr")]
  | 1 => [("^", .foreign "BitXor")]
  | 2 => [("&", .foreign "BitAnd")]
  | 3 => [("<<", .foreign "LShift"), (">>", .foreign "RShift")]
  | 4 => [("+", .add), ("-", .sub)]
  | 5 => [("*", .mul), ("/", .div), ("%", .mod), ("//", .foreign "FloorDiv"),
      ("@", .foreign "MatMult")]
  | _ => []

def binaryLevels : Nat := 6

def binaryOp? (level : Nat) : List Token → Option (BinaryOp × List Token)
  | .mark t :: rest => ((binaryOps level).lookup t).map fun op => (op, rest)
  | _ => none

def signs : List (String × UnaryOp) := [("-", .neg), ("+", .pos), ("~", .foreign "Invert")]

def sign? : List Token → Option (UnaryOp × List Token)
  | .mark t :: rest => (signs.lookup t).map fun op => (op, rest)
  | _ => none

/-- The comparisons that are written with marks. -/
def relations : List (String × Relation) :=
  [("==", .eq), ("!=", .ne), ("<", .lt), ("<=", .le), (">", .gt), (">=", .ge)]

def relation? : List Token → Option (Relation × List Token)
  | .mark t :: rest => (relations.lookup t).map fun r => (r, rest)
  | .word "in" :: rest => some (.elem, rest)
  | .word "not" :: .word "in" :: rest => some (.notElem, rest)
  | .word "is" :: .word "not" :: rest => some (.notSame, rest)
  | .word "is" :: rest => some (.same, rest)
  | _ => none

/-! ## Literals -/

/-- The literals at the start of the tokens, which stand for one text. -/
def takeLiterals : List Token → List Token × List Token
  | [] => ([], [])
  | t :: rest =>
    let more := takeLiterals rest
    match t with
    | .text _ => (t :: more.1, more.2)
    | .bytes _ => (t :: more.1, more.2)
    | .formatted _ => (t :: more.1, more.2)
    | _ => ([], t :: rest)

def bytesOf? : Token → Option (List Nat)
  | .bytes bs => some bs
  | _ => none

/-- The text of a literal, which is empty if it is formatted, and nothing for bytes. -/
def textOf? : Token → Option Text
  | .text s => some s
  | .formatted _ => some []
  | _ => none

/-- Whether a literal has expressions inside. -/
def isFormatted : Token → Bool
  | .formatted _ => true
  | _ => false

/-- The expression of literals that stand side by side; bytes do not mix with texts. -/
def joinLiterals (literals : List Token) : Option Expr :=
  match literals.mapM bytesOf? with
  | some bs => some (.constant (.foreign (Text.quotedBytes bs.flatten)))
  | none =>
    (literals.mapM textOf?).map fun texts =>
      if literals.any isFormatted then .foreign "JoinedStr" else .constant (.text texts.flatten)

/-! ## Targets of comprehensions -/

mutual

/-- Whether a comprehension can bind to an expression. -/
def isTarget : Expr → Bool
  | .name _ => true
  | .attribute _ _ => true
  | .subscript _ _ => true
  | .list items => areTargets items
  | .tuple items => areTargets items
  | .starred inner => isTarget inner
  | _ => false

def areTargets : List Expr → Bool
  | [] => true
  | e :: rest => isTarget e && areTargets rest

end

/-- Whether an item stands for the items of another. -/
def Expr.isStarred : Expr → Bool
  | .starred _ => true
  | _ => false

/-! ## Parameters of functions -/

/-- What has been read of the parameters of a function. -/
structure Parameters where
  /-- Some parameter was read. -/
  any : Bool
  /-- A parameter with a default was read. -/
  defaulted : Bool
  /-- The slash behind positional parameters was read. -/
  slashed : Bool
  /-- The star before parameters by name was read. -/
  starred : Bool
  /-- A bare star was read, which a parameter must follow. -/
  owed : Bool

/-- What can be told of parameters of which none was read. -/
def Parameters.none : Parameters := ⟨false, false, false, false, false⟩

/-- What has been read of the arguments of a call. -/
structure Arguments where
  items : List Expr
  /-- An argument was given by name, or by names out of a mapping. -/
  named : Bool
  /-- Arguments were given by names out of a mapping. -/
  spread : Bool

def Arguments.push (a : Arguments) (e : Expr) : Arguments := { a with items := a.items ++ [e] }

/-! ## The parser -/

mutual

/-- A choice, a function or anything tighter. -/
def parseExpr : (fuel : Nat) → List Token → Option (Expr × List Token)
  | 0, _ => none
  | fuel + 1, ts =>
    match word? "lambda" ts with
    | some rest => do
      let rest ← parseParameters fuel .none rest
      let (_, rest) ← parseExpr fuel rest
      return (.foreign "Lambda", rest)
    | none => do
      let (yes, rest) ← parseOr fuel ts
      match word? "if" rest with
      | none => return (yes, rest)
      | some rest =>
        let (test, rest) ← parseOr fuel rest
        let rest ← word? "else" rest
        let (no, rest) ← parseExpr fuel rest
        return (.choice test yes no, rest)

/-- The parameters of a function up to its colon, and the tokens after that. -/
def parseParameters : (fuel : Nat) → Parameters → List Token → Option (List Token)
  | 0, _, _ => none
  | fuel + 1, p, ts =>
    let next (p : Parameters) (ts : List Token) : Option (List Token) :=
      match mark? "," ts with
      | some rest => parseParameters fuel p rest
      | none => if p.owed then none else mark? ":" ts
    match ts with
    | .mark ":" :: rest => if p.owed then none else some rest
    | .mark "/" :: rest =>
      if p.any && !p.slashed && !p.starred then next { p with slashed := true } rest else none
    | .mark "*" :: rest =>
      if p.starred then none
      else
        match name? rest with
        | some (_, rest) => next { p with any := true, starred := true } rest
        | none =>
          if atMark "," rest then next { p with starred := true, owed := true } rest else none
    | .mark "**" :: rest => do
      let (_, rest) ← name? rest
      if p.owed then none else mark? ":" ((mark? "," rest).getD rest)
    | ts => do
      let (_, rest) ← name? ts
      let p := { p with any := true, owed := false }
      match mark? "=" rest with
      | some rest =>
        let (_, rest) ← parseExpr fuel rest
        next { p with defaulted := true } rest
      | none => if p.defaulted && !p.starred then none else next p rest

/-- An expression, to which a name may be bound. -/
def parseNamed : (fuel : Nat) → List Token → Option (Expr × List Token)
  | 0, _ => none
  | fuel + 1, ts =>
    match nameWith? ":=" ts with
    | some (_, rest) => do
      let (_, rest) ← parseExpr fuel rest
      return (.foreign "NamedExpr", rest)
    | none => parseExpr fuel ts

def parseItem : (fuel : Nat) → List Token → Option (Expr × List Token)
  | 0, _ => none
  | fuel + 1, ts =>
    match mark? "*" ts with
    | some rest => do
      let (e, rest) ← parseBinary fuel 0 rest
      return (.starred e, rest)
    | none => parseNamed fuel ts

/-- More items behind the first one, up to a closing mark, and the tokens after that. -/
def parseItems : (fuel : Nat) → (closing : String) → List Token → Option (List Expr × List Token)
  | 0, _, _ => none
  | fuel + 1, closing, ts =>
    match mark? closing ts with
    | some rest => some ([], rest)
    | none => do
      let rest ← mark? "," ts
      match mark? closing rest with
      | some rest => return ([], rest)
      | none =>
        let (e, rest) ← parseItem fuel rest
        let (es, rest) ← parseItems fuel closing rest
        return (e :: es, rest)

/-- A chain of `or`, or anything tighter. -/
def parseOr : (fuel : Nat) → List Token → Option (Expr × List Token)
  | 0, _ => none
  | fuel + 1, ts => do
    let (e, rest) ← parseAnd fuel ts
    let (es, rest) ← parseOrs fuel rest
    return (if es.isEmpty then e else .logic .or (e :: es), rest)

def parseOrs : (fuel : Nat) → List Token → Option (List Expr × List Token)
  | 0, _ => none
  | fuel + 1, ts =>
    match word? "or" ts with
    | none => some ([], ts)
    | some rest => do
      let (e, rest) ← parseAnd fuel rest
      let (es, rest) ← parseOrs fuel rest
      return (e :: es, rest)

def parseAnd : (fuel : Nat) → List Token → Option (Expr × List Token)
  | 0, _ => none
  | fuel + 1, ts => do
    let (e, rest) ← parseNot fuel ts
    let (es, rest) ← parseAnds fuel rest
    return (if es.isEmpty then e else .logic .and (e :: es), rest)

def parseAnds : (fuel : Nat) → List Token → Option (List Expr × List Token)
  | 0, _ => none
  | fuel + 1, ts =>
    match word? "and" ts with
    | none => some ([], ts)
    | some rest => do
      let (e, rest) ← parseNot fuel rest
      let (es, rest) ← parseAnds fuel rest
      return (e :: es, rest)

def parseNot : (fuel : Nat) → List Token → Option (Expr × List Token)
  | 0, _ => none
  | fuel + 1, ts =>
    match word? "not" ts with
    | some rest => do
      let (e, rest) ← parseNot fuel rest
      return (.unary .not e, rest)
    | none => do
      let (e, rest) ← parseBinary fuel 0 ts
      let (more, rest) ← parseRelations fuel rest
      return (if more.isEmpty then e else .compare e more, rest)

def parseRelations : (fuel : Nat) → List Token → Option (List (Relation × Expr) × List Token)
  | 0, _ => none
  | fuel + 1, ts =>
    match relation? ts with
    | none => some ([], ts)
    | some (r, rest) => do
      let (e, rest) ← parseBinary fuel 0 rest
      let (more, rest) ← parseRelations fuel rest
      return ((r, e) :: more, rest)

/-- A chain of binary operators of a level, or anything tighter. -/
def parseBinary : (fuel level : Nat) → List Token → Option (Expr × List Token)
  | 0, _, _ => none
  | fuel + 1, level, ts =>
    if binaryLevels ≤ level then parseFactor fuel ts
    else do
      let (left, rest) ← parseBinary fuel (level + 1) ts
      parseBinaries fuel level left rest

def parseBinaries : (fuel level : Nat) → Expr → List Token → Option (Expr × List Token)
  | 0, _, _, _ => none
  | fuel + 1, level, left, ts =>
    match binaryOp? level ts with
    | none => some (left, ts)
    | some (op, rest) => do
      let (right, rest) ← parseBinary fuel (level + 1) rest
      parseBinaries fuel level (.binary op left right) rest

/-- A sign with its operand, a power, or anything tighter. -/
def parseFactor : (fuel : Nat) → List Token → Option (Expr × List Token)
  | 0, _ => none
  | fuel + 1, ts =>
    match sign? ts with
    | some (op, rest) => do
      let (e, rest) ← parseFactor fuel rest
      return (.unary op e, rest)
    | none => do
      let (base, rest) ←
        match word? "await" ts with
        | some rest => (parsePrimary fuel rest).map fun (_, rest) => (Expr.foreign "Await", rest)
        | none => parsePrimary fuel ts
      match mark? "**" rest with
      | none => return (base, rest)
      | some rest =>
        let (power, rest) ← parseFactor fuel rest
        return (.binary (.foreign "Pow") base power, rest)

/-- A name, a literal or brackets, with what follows them. -/
def parsePrimary : (fuel : Nat) → List Token → Option (Expr × List Token)
  | 0, _ => none
  | fuel + 1, ts => do
    let (e, rest) ← parseAtom fuel ts
    parseTrailers fuel e rest

/-- Attributes, subscripts and calls behind an expression. -/
def parseTrailers : (fuel : Nat) → Expr → List Token → Option (Expr × List Token)
  | 0, _, _ => none
  | fuel + 1, e, ts =>
    match ts with
    | .mark "." :: rest => do
      let (id, rest) ← name? rest
      parseTrailers fuel (.attribute e id) rest
    | .mark "(" :: rest => do
      let (arguments, rest) ← parseArguments fuel ⟨[], false, false⟩ rest
      parseTrailers fuel (.call e arguments.items arguments.named) rest
    | .mark "[" :: rest => do
      let (key, rest) ← parseKeys fuel rest
      parseTrailers fuel (.subscript e key) rest
    | ts => some (e, ts)

def parseArguments : (fuel : Nat) → Arguments → List Token → Option (Arguments × List Token)
  | 0, _, _ => none
  | fuel + 1, a, ts =>
    let next (a : Arguments) (ts : List Token) : Option (Arguments × List Token) :=
      match mark? ")" ts with
      | some rest => some (a, rest)
      | none => do
        let rest ← mark? "," ts
        parseArguments fuel a rest
    match ts with
    | .mark ")" :: rest => some (a, rest)
    | .mark "**" :: rest => do
      let (_, rest) ← parseExpr fuel rest
      next { a with named := true, spread := true } rest
    | .mark "*" :: rest => do
      let (e, rest) ← parseExpr fuel rest
      if a.spread then none else next (a.push (.starred e)) rest
    | ts =>
      match nameWith? "=" ts with
      | some (_, rest) => do
        let (_, rest) ← parseExpr fuel rest
        next { a with named := true } rest
      | none => do
        let (e, rest) ← parseNamed fuel ts
        if a.named then none
        else if atClause rest then
          if a.items.isEmpty then
            let rest ← parseClauses fuel rest
            let rest ← mark? ")" rest
            return (a.push (.foreign "GeneratorExp"), rest)
          else none
        else next (a.push e) rest

def parseKeys : (fuel : Nat) → List Token → Option (Expr × List Token)
  | 0, _ => none
  | fuel + 1, ts => do
    let (e, rest) ← parseKey fuel ts
    match mark? "]" rest with
    | some rest => return (if e.isStarred then .tuple [e] else e, rest)
    | none =>
      let (es, rest) ← parseMoreKeys fuel rest
      return (.tuple (e :: es), rest)

def parseMoreKeys : (fuel : Nat) → List Token → Option (List Expr × List Token)
  | 0, _ => none
  | fuel + 1, ts =>
    match mark? "]" ts with
    | some rest => some ([], rest)
    | none => do
      let rest ← mark? "," ts
      match mark? "]" rest with
      | some rest => return ([], rest)
      | none =>
        let (e, rest) ← parseKey fuel rest
        let (es, rest) ← parseMoreKeys fuel rest
        return (e :: es, rest)

/-- A single key or a slice. -/
def parseKey : (fuel : Nat) → List Token → Option (Expr × List Token)
  | 0, _ => none
  | fuel + 1, ts =>
    match ts with
    | .mark "*" :: rest => do
      let (e, rest) ← parseExpr fuel rest
      return (.starred e, rest)
    | .mark ":" :: _ => parseSlice fuel ts
    | ts => do
      let (e, rest) ← parseNamed fuel ts
      if atMark ":" rest && (nameWith? ":=" ts).isNone then parseSlice fuel rest
      else return (e, rest)

/-- What follows the first bound of a slice. -/
def parseSlice : (fuel : Nat) → List Token → Option (Expr × List Token)
  | 0, _ => none
  | fuel + 1, ts => do
    let rest ← mark? ":" ts
    let rest ← parseBound fuel rest
    match mark? ":" rest with
    | none => return (.foreign "Slice", rest)
    | some rest =>
      let rest ← parseBound fuel rest
      return (.foreign "Slice", rest)

def parseBound : (fuel : Nat) → List Token → Option (List Token)
  | 0, _ => none
  | fuel + 1, ts =>
    if atMark ":" ts || atMark "," ts || atMark "]" ts then some ts
    else (parseExpr fuel ts).map Prod.snd

def parseAtom : (fuel : Nat) → List Token → Option (Expr × List Token)
  | 0, _ => none
  | fuel + 1, ts =>
    match ts with
    | .word "None" :: rest => some (.constant .null, rest)
    | .word "True" :: rest => some (.constant (.bool true), rest)
    | .word "False" :: rest => some (.constant (.bool false), rest)
    | .word _ :: _ => none
    | .name id :: rest => some (.name id, rest)
    | .number c :: rest => some (.constant c, rest)
    | .mark "..." :: rest => some (.constant (.foreign "Ellipsis"), rest)
    | .mark "(" :: rest => parseGroup fuel rest
    | .mark "[" :: rest => parseList fuel rest
    | .mark "\x7b" :: rest => parseBraces fuel rest
    | .mark _ :: _ => none
    | [] => none
    | ts =>
      let (literals, rest) := takeLiterals ts
      (joinLiterals literals).map fun e => (e, rest)

/-- What stands in parentheses, behind the opening one. -/
def parseGroup : (fuel : Nat) → List Token → Option (Expr × List Token)
  | 0, _ => none
  | fuel + 1, ts =>
    match ts with
    | .mark ")" :: rest => some (.tuple [], rest)
    | .word "yield" :: .word "from" :: rest => do
      let (_, rest) ← parseExpr fuel rest
      let rest ← mark? ")" rest
      return (.foreign "YieldFrom", rest)
    | .word "yield" :: .mark ")" :: rest => some (.foreign "Yield", rest)
    | .word "yield" :: rest => do
      let (_, rest) ← parseYielded fuel rest
      return (.foreign "Yield", rest)
    | ts => do
      let (e, rest) ← parseItem fuel ts
      if atClause rest then
        if e.isStarred then none
        else
          let rest ← parseClauses fuel rest
          let rest ← mark? ")" rest
          return (.foreign "GeneratorExp", rest)
      else
        match mark? ")" rest with
        | some rest => if e.isStarred then none else return (e, rest)
        | none =>
          let (es, rest) ← parseItems fuel ")" rest
          return (.tuple (e :: es), rest)

/-- The values behind `yield`, up to the closing bracket. -/
def parseYielded : (fuel : Nat) → List Token → Option (Expr × List Token)
  | 0, _ => none
  | fuel + 1, ts => do
    let (e, rest) ←
      match mark? "*" ts with
      | some rest => parseBinary fuel 0 rest
      | none => parseExpr fuel ts
    match mark? ")" rest with
    | some rest => return (e, rest)
    | none =>
      let rest ← mark? "," rest
      match mark? ")" rest with
      | some rest => return (e, rest)
      | none => parseYielded fuel rest

def parseList : (fuel : Nat) → List Token → Option (Expr × List Token)
  | 0, _ => none
  | fuel + 1, ts =>
    match mark? "]" ts with
    | some rest => some (.list [], rest)
    | none => do
      let (e, rest) ← parseItem fuel ts
      if atClause rest then
        if e.isStarred then none
        else
          let rest ← parseClauses fuel rest
          let rest ← mark? "]" rest
          return (.foreign "ListComp", rest)
      else
        let (es, rest) ← parseItems fuel "]" rest
        return (.list (e :: es), rest)

def parseBraces : (fuel : Nat) → List Token → Option (Expr × List Token)
  | 0, _ => none
  | fuel + 1, ts =>
    if atMark "\x7d" ts || atMark "**" ts then parseEntries fuel ts
    else do
      let (e, rest) ← parseItem fuel ts
      if atMark ":" rest then
        if e.isStarred || (nameWith? ":=" ts).isSome then none
        else
          let rest ← mark? ":" rest
          let (_, rest) ← parseExpr fuel rest
          if atClause rest then
            let rest ← parseClauses fuel rest
            let rest ← mark? "\x7d" rest
            return (.foreign "DictComp", rest)
          else parseMoreEntries fuel rest
      else if atClause rest then
        if e.isStarred then none
        else
          let rest ← parseClauses fuel rest
          let rest ← mark? "\x7d" rest
          return (.foreign "SetComp", rest)
      else
        let (_, rest) ← parseItems fuel "\x7d" rest
        return (.foreign "Set", rest)

def parseEntries : (fuel : Nat) → List Token → Option (Expr × List Token)
  | 0, _ => none
  | fuel + 1, ts =>
    match ts with
    | .mark "\x7d" :: rest => some (.foreign "Dict", rest)
    | .mark "**" :: rest => do
      let (_, rest) ← parseBinary fuel 0 rest
      parseMoreEntries fuel rest
    | ts => do
      let (_, rest) ← parseExpr fuel ts
      let rest ← mark? ":" rest
      let (_, rest) ← parseExpr fuel rest
      parseMoreEntries fuel rest

def parseMoreEntries : (fuel : Nat) → List Token → Option (Expr × List Token)
  | 0, _ => none
  | fuel + 1, ts =>
    match mark? "\x7d" ts with
    | some rest => some (.foreign "Dict", rest)
    | none => do
      let rest ← mark? "," ts
      parseEntries fuel rest

/-- The clauses of a comprehension, at least one. -/
def parseClauses : (fuel : Nat) → List Token → Option (List Token)
  | 0, _ => none
  | fuel + 1, ts => do
    let rest ← word? "for" ((word? "async" ts).getD ts)
    let rest ← parseTargets fuel rest
    let (_, rest) ← parseOr fuel rest
    let rest ← parseConditions fuel rest
    if atClause rest then parseClauses fuel rest else return rest

/-- What a comprehension binds to, up to `in`, and the tokens after that. -/
def parseTargets : (fuel : Nat) → List Token → Option (List Token)
  | 0, _ => none
  | fuel + 1, ts => do
    let (e, rest) ← parsePrimary fuel ((mark? "*" ts).getD ts)
    if isTarget e then
      match word? "in" rest with
      | some rest => return rest
      | none =>
        let rest ← mark? "," rest
        match word? "in" rest with
        | some rest => return rest
        | none => parseTargets fuel rest
    else none

def parseConditions : (fuel : Nat) → List Token → Option (List Token)
  | 0, _ => none
  | fuel + 1, ts =>
    match word? "if" ts with
    | none => some ts
    | some rest => do
      let (_, rest) ← parseOr fuel rest
      parseConditions fuel rest

end

/-- More expressions behind the first one of a source, up to its end. -/
def parseMore : (fuel : Nat) → List Token → Option (List Expr)
  | 0, _ => none
  | _ + 1, [] => some []
  | fuel + 1, ts => do
    let rest ← mark? "," ts
    if rest.isEmpty then return []
    else
      let (e, rest) ← parseExpr fuel rest
      let es ← parseMore fuel rest
      return e :: es

/-- The fuel for so many tokens: no part of the grammar nests deeper than this per token. -/
def fuelFor (ts : List Token) : Nat := 30 * (ts.length + 1)

/-- The expression that the tokens denote; more than one make a tuple. -/
def parseTokens (ts : List Token) : Option Expr := do
  let (e, rest) ← parseExpr (fuelFor ts) ts
  let es ← parseMore (fuelFor ts) rest
  return if rest.isEmpty then e else .tuple (e :: es)

def Token.sources : Token → List (List Char)
  | .formatted sources => sources
  | _ => []

/-- The expression that a source denotes. What stands inside of formatted literals has to be
expressions too. -/
def parseSource : (fuel : Nat) → List Char → Option Expr
  | 0, _ => none
  | fuel + 1, source => do
    let ts ← lex source
    let e ← parseTokens ts
    if (ts.flatMap Token.sources).all fun inner =>
        (parseSource fuel ('(' :: inner ++ [')'])).isSome
    then return e
    else none

def parse (source : String) : Option Expr :=
  parseSource (source.toList.length + 1) source.toList

end MockApi.Predicate
