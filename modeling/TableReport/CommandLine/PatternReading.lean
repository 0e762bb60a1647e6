import TableReport.CommandLine.Pattern
import TableReport.Text.Blank
import TableReport.Text.Letter
/-!
# Reading patterns

Characters stand for themselves, but for those with a meaning: a point for any character of a line, a
caret and a dollar sign for the ends of the text, brackets for sets, parentheses for groups, a bar
between choices, and a star, a plus sign or a question mark for repetition. Another question mark makes
a repetition reluctant. Groups may have names, and set flags. Counted repetition is not supported, nor
are properties of characters beyond ASCII.
-/
namespace TableReport

/-- The flags under which a part of a pattern is read. -/
structure PatternFlags where
  ignoreCase : Bool := false
  /-- The ends of the text are those of each line. -/
  manyLines : Bool := false
  /-- The point stands for line ends too. -/
  pointAll : Bool := false
  /-- Repetitions are reluctant unless marked, and greedy if marked. -/
  swapGreed : Bool := false
  /-- Characters beyond ASCII have classes and cases too. -/
  unicode : Bool := true
  /-- Blanks and comments are passed over. -/
  ignoreSpace : Bool := false
  /-- A carriage return ends a line too. -/
  anyLineEnd : Bool := false
deriving DecidableEq

namespace PatternFlags

/-- Sets the flag of a letter. -/
def set? (f : PatternFlags) (letter : Char) (v : Bool) : Option PatternFlags :=
  if letter == 'i' then some { f with ignoreCase := v }
  else if letter == 'm' then some { f with manyLines := v }
  else if letter == 's' then some { f with pointAll := v }
  else if letter == 'U' then some { f with swapGreed := v }
  else if letter == 'u' then some { f with unicode := v }
  else if letter == 'x' then some { f with ignoreSpace := v }
  else if letter == 'R' then some { f with anyLineEnd := v }
  else none

/-- Sets flags by their letters, and unsets those behind a dash. None may be there twice, and the dash
not at the end. -/
def update? (f : PatternFlags) (v : Bool) : List Char → Option PatternFlags
  | [] => some f
  | c :: rest =>
    if rest.contains c then none
    else if c == '-' then (if v && !rest.isEmpty then f.update? false rest else none)
    else do (← f.set? c v).update? v rest

/-- The rest of a line and its end taken away. -/
def skipLine (cs : List Char) : List Char := (cs.dropWhile (· != '\n')).drop 1

/-- The characters without blanks and comments in front, if these are passed over. The number bounds the
comments. -/
def skipComments : Nat → List Char → List Char
  | 0, cs => cs
  | fuel + 1, cs =>
    match Text.trimLeft cs with
    | '#' :: rest => skipComments fuel (skipLine rest)
    | rest => rest

/-- The characters that count, from the first one on. -/
def skip (f : PatternFlags) (cs : List Char) : List Char :=
  if f.ignoreSpace then skipComments cs.length cs else cs

end PatternFlags

namespace Pattern

/-- What a character with a backslash stands for, or a character without one. -/
inductive Piece where
  /-- A character, and whether it is written as the code of a byte. -/
  | char (c : Char) (asByte : Bool)
  | set (s : CharSet)
  | anchor (a : Anchor)

/-- Hexadecimal digits of a given number, blanks between them passed over if they are. -/
def readCode? (f : PatternFlags) : Nat → Nat → List Char → Option (Char × List Char)
  | 0, code, cs => if code.isValidChar then some (Char.ofNat code, cs) else none
  | width + 1, code, c :: rest =>
    let lower := c.toLower
    if c.isDigit then readCode? f width (code * 16 + (c.toNat - '0'.toNat)) (f.skip rest)
    else if 'a' ≤ lower && lower ≤ 'f' then
      readCode? f width (code * 16 + (lower.toNat - 'a'.toNat + 10)) (f.skip rest)
    else none
  | _ + 1, _, [] => none

/-- A character that has a meaning only behind a backslash. -/
def controlChar? (c : Char) : Option Char :=
  [('a', '\x07'), ('f', '\x0c'), ('t', '\t'), ('n', '\n'), ('r', '\r'), ('v', '\x0b')].lookup c

/-- A set that has a letter behind a backslash. -/
def letterSet? (c : Char) : Option CharSet :=
  [('d', CharSet.digit), ('s', .space), ('w', .word)].lookup c

/-- A place in a text that has a character behind a backslash. Words are ASCII ones. -/
def letterAnchor? (f : PatternFlags) (c : Char) : Option Anchor :=
  if c == 'A' then some .textStart
  else if c == 'z' then some .textEnd
  else if f.unicode then none
  else [('b', Anchor.wordEdge), ('B', .noWordEdge), ('<', .wordStart), ('>', .wordEnd)].lookup c

/-- What a backslash and the characters behind it stand for. -/
def readEscape? (f : PatternFlags) : List Char → Option (Piece × List Char)
  | [] => none
  | c :: rest =>
    if c == 'x' then
      (readCode? f 2 0 (f.skip rest)).map fun (d, rest) => (.char d true, rest)
    else if c == 'u' then
      (readCode? f 4 0 (f.skip rest)).map fun (d, rest) => (.char d false, rest)
    else if c == 'U' then
      (readCode? f 8 0 (f.skip rest)).map fun (d, rest) => (.char d false, rest)
    else if let some s := letterSet? c then (if f.unicode then none else some (.set s, rest))
    else if let some d := controlChar? c then some (.char d false, rest)
    else if let some a := letterAnchor? f c then some (.anchor a, rest)
    else if c.isAlphanum || c == '<' || c == '>' || 0x80 ≤ c.toNat then none
    else some (.char c false, rest)

/-- Whether a character can be a member of a set. Without Unicode all members are ASCII. -/
def canBeMember (f : PatternFlags) (c : Char) : Bool := f.unicode || c.toNat < 0x80

/-- A character or a set inside brackets. -/
def readMember? (f : PatternFlags) : List Char → Option (Piece × List Char)
  | '\\' :: rest => readEscape? f rest
  | c :: rest => some (.char c false, rest)
  | [] => none

/-- The set of a piece by itself. -/
def memberSet? (f : PatternFlags) : Piece → Option CharSet
  | .char c _ => if canBeMember f c then some (.one c) else none
  | .set s => some s
  | .anchor _ => none

/-- The set of the characters between two. -/
def rangeSet? (f : PatternFlags) : Piece → Piece → Option CharSet
  | .char low _, .char high _ =>
    if canBeMember f low && canBeMember f high && low ≤ high then some (.range low high) else none
  | _, _ => none

/-- A member or a range of members inside brackets. A dash before a bracket or before another dash makes
no range. -/
def readMembers? (f : PatternFlags) (cs : List Char) : Option (CharSet × List Char) := do
  let (low, rest) ← readMember? f cs
  match f.skip rest with
  | '-' :: more =>
    match f.skip more with
    | ']' :: _ => (memberSet? f low).map (·, '-' :: more)
    | '-' :: _ => (memberSet? f low).map (·, '-' :: more)
    | more => do
      let (high, rest) ← readMember? f more
      (rangeSet? f low high).map (·, rest)
  | rest => (memberSet? f low).map (·, rest)

/-- A named set behind an opening bracket inside brackets. -/
def readNamed? (cs : List Char) : Option ((Bool × CharSet) × List Char) :=
  match cs with
  | ':' :: rest =>
    let (negated, rest) := match rest with
      | '^' :: rest => (true, rest)
      | rest => (false, rest)
    match rest.span (· != ':') with
    | (name, ':' :: ']' :: rest) =>
      (CharSet.ofName? (String.ofList name)).map fun s => ((negated, s), rest)
    | _ => none
  | _ => none

/-- A set with its cases made one if cases are ignored, and the complement if it is negated. Without
Unicode, complements are not supported, and with it, ignoring cases is not. -/
def finishSet? (f : PatternFlags) (negated : Bool) (s : CharSet) : Option CharSet :=
  if f.ignoreCase && f.unicode then none
  else if negated && !f.unicode then none
  else
    let s := if f.ignoreCase then .anyCase s else s
    some (if negated then .complement s else s)

/-- An operation on what stands before it inside brackets, and that. -/
structure PendingSet where
  operation : CharSet → CharSet → CharSet
  left : CharSet

/-- What stands before a place inside brackets: the members since the last operation, with that
operation carried out. -/
def joinSets (f : PatternFlags) (pending : Option PendingSet) (members : CharSet) : CharSet :=
  let cased (s : CharSet) : CharSet := if f.ignoreCase then .anyCase s else s
  match pending with
  | some p => p.operation (cased p.left) (cased members)
  | none => members

/-- Dashes at the start of brackets, which are members. -/
def skipDashes (f : PatternFlags) : Nat → CharSet → List Char → CharSet × List Char
  | fuel + 1, members, '-' :: rest =>
    skipDashes f fuel (.union members (.one '-')) (f.skip rest)
  | _, members, cs => (members, cs)

/-- The members at the start of brackets that would mean something else further on: dashes, or a closing
bracket. -/
def readFirstMembers (f : PatternFlags) (cs : List Char) : CharSet × List Char :=
  match cs with
  | ']' :: rest => (.one ']', f.skip rest)
  | _ => skipDashes f cs.length .empty cs

mutual

/-- A set whose opening bracket is read already. The first argument bounds the number of steps. -/
def readSet? (f : PatternFlags) : Nat → List Char → Option (CharSet × List Char)
  | 0, _ => none
  | fuel + 1, cs => do
    let (negated, cs) := match f.skip cs with
      | '^' :: rest => (true, f.skip rest)
      | rest => (false, rest)
    let (members, cs) := readFirstMembers f cs
    let (found, rest) ← readSetRest? f fuel none members cs
    (finishSet? f negated found).map (·, rest)

/-- The rest of a set, after the members so far and the operation before them. -/
def readSetRest? (f : PatternFlags) :
    Nat → Option PendingSet → CharSet → List Char → Option (CharSet × List Char)
  | 0, _, _, _ => none
  | fuel + 1, pending, members, cs =>
    match f.skip cs with
    | [] => none
    | ']' :: rest => some (joinSets f pending members, rest)
    | '&' :: '&' :: rest =>
      readSetRest? f fuel (some ⟨.intersection, joinSets f pending members⟩) .empty rest
    | '-' :: '-' :: rest =>
      readSetRest? f fuel (some ⟨.difference, joinSets f pending members⟩) .empty rest
    | '~' :: '~' :: rest =>
      readSetRest? f fuel (some ⟨.symmetricDifference, joinSets f pending members⟩) .empty rest
    | '[' :: rest => do
      let (found, rest) ← match readNamed? rest with
        | some ((negated, s), rest) => (finishSet? f negated s).map (·, rest)
        | none => readSet? f fuel rest
      readSetRest? f fuel pending (.union members found) rest
    | cs => do
      let (found, rest) ← readMembers? f cs
      readSetRest? f fuel pending (.union members found) rest

end

/-- The pattern of a piece. A byte beyond ASCII is no character without Unicode, and with it, ignoring
cases is not supported. -/
def ofPiece? (f : PatternFlags) : Piece → Option Pattern
  | .char c asByte =>
    if f.ignoreCase && f.unicode then none
    else if asByte && !canBeMember f c then none
    else if f.ignoreCase then some (.char (.anyCase (.one c)))
    else some (.char (.one c))
  | .set s => some (.char s)
  | .anchor a => some (.anchor a)

/-- The pattern of a point. -/
def point? (f : PatternFlags) : Option Pattern :=
  if !f.unicode then none
  else
    let excluded : CharSet :=
      if f.pointAll then .empty
      else if f.anyLineEnd then .ofList ['\n', '\r']
      else .one '\n'
    some (.char (.complement excluded))

/-- The place that a caret stands for. -/
def caret (f : PatternFlags) : Anchor :=
  if !f.manyLines then .textStart else if f.anyLineEnd then .lineStartAny else .lineStart

/-- The place that a dollar sign stands for. -/
def dollar (f : PatternFlags) : Anchor :=
  if !f.manyLines then .textEnd else if f.anyLineEnd then .lineEndAny else .lineEnd

/-- A mark of repetition. -/
def isMark (c : Char) : Bool := c == '*' || c == '+' || c == '?'

/-- A pattern under a mark of repetition. -/
def withMark (p : Pattern) (greedy : Bool) (mark : Char) : Pattern :=
  if mark == '*' then .many p greedy
  else if mark == '+' then .several p greedy
  else if greedy then .choice p .empty
  else .choice .empty p

/-- A pattern with the marks of repetition behind it. The number bounds the marks. -/
def readMarks (f : PatternFlags) : Nat → Pattern → List Char → Pattern × List Char
  | 0, p, cs => (p, cs)
  | fuel + 1, p, cs =>
    match f.skip cs with
    | mark :: rest =>
      if isMark mark then
        match rest with
        | '?' :: rest => readMarks f fuel (p.withMark f.swapGreed mark) rest
        | rest => readMarks f fuel (p.withMark (!f.swapGreed) mark) rest
      else (p, mark :: rest)
    | [] => (p, [])

/-- What stands behind an opening parenthesis. -/
inductive GroupStart where
  | plain
  | named (name : String)
  /-- Flags for the group. -/
  | inside (f : PatternFlags)
  /-- Flags from here on, and no group. -/
  | onwards (f : PatternFlags)

/-- A character that the name of a group can begin with. -/
def isNameStart (c : Char) : Bool := c == '_' || Text.isAlphabetic c

/-- A character inside the name of a group. -/
def isNamePart (c : Char) : Bool :=
  c == '_' || c == '.' || c == '[' || c == ']' || Text.isAlphanumeric c

/-- The name of a group, up to its closing angle bracket. -/
def readName? (cs : List Char) : Option (GroupStart × List Char) :=
  match cs.span (· != '>') with
  | (c :: name, '>' :: rest) =>
    if isNameStart c && name.all isNamePart then some (.named (String.ofList (c :: name)), rest)
    else none
  | _ => none

/-- What stands behind an opening parenthesis, and the characters after it. -/
def readGroupStart? (f : PatternFlags) (cs : List Char) : Option (GroupStart × List Char) :=
  match f.skip cs with
  | '?' :: 'P' :: '<' :: rest => readName? rest
  | '?' :: '<' :: rest => readName? rest
  | '?' :: rest =>
    match rest.span fun c => c != ':' && c != ')' with
    | (letters, ':' :: rest) => (f.update? true letters).map (.inside ·, rest)
    | (letters, ')' :: rest) =>
      if letters.isEmpty then none else (f.update? true letters).map (.onwards ·, rest)
    | _ => none
  | rest => some (.plain, rest)

/-- How far a pattern is read: the flags, the names of groups, and the characters to come. -/
structure Reading where
  flags : PatternFlags
  names : List String
  rest : List Char

mutual

/-- Choices between sequences. The first argument bounds the number of steps. -/
def readChoices? : Nat → Reading → Option (Pattern × Reading)
  | 0, _ => none
  | fuel + 1, r => do
    let (p, r) ← readSequence? fuel r
    match r.rest with
    | '|' :: rest => do
      let (q, r) ← readChoices? fuel { r with rest := rest }
      some (.choice p q, r)
    | _ => some (p, r)

/-- Parts one after the other, each with its marks of repetition. -/
def readSequence? : Nat → Reading → Option (Pattern × Reading)
  | 0, _ => none
  | fuel + 1, r =>
    match r.flags.skip r.rest with
    | [] => some (.empty, { r with rest := [] })
    | '|' :: rest => some (.empty, { r with rest := '|' :: rest })
    | ')' :: rest => some (.empty, { r with rest := ')' :: rest })
    | '(' :: rest => do
      let (start, rest) ← readGroupStart? r.flags rest
      match start with
      | .onwards flags => readSequence? fuel { r with flags := flags, rest := rest }
      | .plain => readGroup? fuel r { r with rest := rest }
      | .inside flags => readGroup? fuel r { r with flags := flags, rest := rest }
      | .named name =>
        if r.names.contains name then none
        else readGroup? fuel r { r with names := name :: r.names, rest := rest }
    | c :: rest => do
      let (p, rest) ← readPart? r.flags c rest
      continueSequence? fuel p { r with rest := rest }

/-- The rest of a group up to its closing parenthesis, and of the sequence it stands in. The first
reading is the one before the group, whose flags apply again after it. -/
def readGroup? : Nat → Reading → Reading → Option (Pattern × Reading)
  | 0, _, _ => none
  | fuel + 1, outer, inner => do
    let (p, r) ← readChoices? fuel inner
    match r.rest with
    | ')' :: rest => continueSequence? fuel p { r with flags := outer.flags, rest := rest }
    | _ => none

/-- A part with the marks behind it, and the rest of the sequence. -/
def continueSequence? : Nat → Pattern → Reading → Option (Pattern × Reading)
  | 0, _, _ => none
  | fuel + 1, p, r => do
    let (p, rest) := readMarks r.flags r.rest.length p r.rest
    let (q, r) ← readSequence? fuel { r with rest := rest }
    some (.sequence p q, r)

/-- A character, a set of characters, or a place in the text. -/
def readPart? (f : PatternFlags) (c : Char) (rest : List Char) : Option (Pattern × List Char) :=
  if isMark c || c == '\x7b' then none
  else if c == '[' then
    (readSet? f (2 * rest.length + 2) rest).map fun (set, rest) => (.char set, rest)
  else if c == '\\' then do
    let (piece, rest) ← readEscape? f rest
    (ofPiece? f piece).map (·, rest)
  else if c == '.' then (point? f).map (·, rest)
  else if c == '^' then some (.anchor (caret f), rest)
  else if c == '$' then some (.anchor (dollar f), rest)
  else (ofPiece? f (.char c false)).map (·, rest)

end

/-- Enough steps to read a text of a given length. -/
def stepsFor (length : Nat) : Nat := 4 * (length + 1)

/-- The pattern that a text denotes. -/
def read? (s : String) : Option Pattern := do
  let (p, r) ← readChoices? (stepsFor s.length) ⟨{}, [], s.toList⟩
  if r.rest.isEmpty then some p else none

end Pattern

end TableReport
