import Gamebook.Json.Quote
import Gamebook.Number.Numeral
import Gamebook.Pattern.Node
import Gamebook.Text.Identifier
import Gamebook.Value.Display

/-!
Reading patterns. The notation has literals, escapes, sets, groups with and without names, back
references, looks ahead and behind, conditions, repetitions in three degrees of greed, and flags for
the whole pattern or a part of it. A pattern that is not well written is refused with the reason and
mostly with the place.
-/

namespace Gamebook.Pattern

open Text

/-- Why a pattern is refused. -/
inductive Fault where
  | malformed (reason : String) (place : Option Nat)
  | numeralTooLong (digits : Nat)
  | repetitionTooLarge
  | incompatibleFlags

/-- Settings that a pattern switches on or off, by their letters. -/
abbrev Flags := List Char

/-- A part of a pattern with its settings: letters switched on and letters switched off. -/
abbrev Scope := List (Flags × Flags)

/-- The effect of switching flags on and off. -/
def Mode.switch (m : Mode) (on off : Flags) : Mode :=
  { ignoreCase := (m.ignoreCase || on.contains 'i') && !off.contains 'i'
    multiline := (m.multiline || on.contains 'm') && !off.contains 'm'
    dotAll := (m.dotAll || on.contains 's') && !off.contains 's'
    ascii := if on.contains 'a' || on.contains 'u' then on.contains 'a' else m.ascii }

/-- The mode of a part of a pattern. -/
def Mode.within (flags : Flags) (scope : Scope) : Mode :=
  scope.foldl (fun m step => m.switch step.1 step.2) (({} : Mode).switch flags [])

/-- What has been read of a pattern: the rest and its place, the flags of the whole pattern, the
widths of the groups as far as they are closed, their names, the number of groups before the look
behind under way, and the groups that conditions ask for. -/
structure Reading where
  rest : List Char
  place : Nat := 0
  flags : Flags := []
  widths : List (Option (Nat × Nat)) := [some (0, 0)]
  names : List (String × Nat) := []
  behindFrom : Option Nat := none
  asked : List (Nat × Nat) := []

/-- A step of reading. -/
abbrev Reader := StateT Reading (Except Fault)

namespace Reader

/-- Refuses the pattern at a place that lies `back` characters behind. -/
def refuse {α : Type} (reason : String) (back : Nat := 0) : Reader α := do
  throw (.malformed reason (some ((← get).place - back)))

/-- The next unit: a character, or a backslash with the character behind it. -/
def peek : Reader (List Char) := do
  match (← get).rest with
  | [] => return []
  | '\\' :: c :: _ => return ['\\', c]
  | c :: _ => return [c]

/-- Refuses a backslash at the end of the pattern. -/
def checkEnd : Reader Unit := do
  let r ← get
  if r.rest = ['\\'] then throw (.malformed "bad escape (end of pattern)" (some r.place))

/-- Takes the next unit; nothing at the end. -/
def take : Reader (List Char) := do
  let unit ← peek
  modify fun r =>
    { r with rest := r.rest.drop unit.length, place := r.place + unit.length }
  checkEnd
  return unit

/-- Takes the next unit if it is the given character. -/
def accept (c : Char) : Reader Bool := do
  if (← peek) = [c] then
    discard take
    return true
  else return false

/-- Takes at most `n` units of a class. -/
def takeWhile (inClass : Char → Bool) : Nat → Reader (List Char)
  | 0 => return []
  | n + 1 => do
    match ← peek with
    | [c] =>
      if inClass c then
        discard take
        return c :: (← takeWhile inClass n)
      else return []
    | _ => return []

/-- Takes a name up to a terminator. -/
def takeUntil (terminator : Char) (what : String) : Nat → List Char → Reader (List Char)
  | 0, name => return name
  | fuel + 1, name => do
    let unit ← take
    if unit.isEmpty then
      if name.isEmpty then refuse ("missing " ++ what)
      else refuse ("missing " ++ terminator.toString ++ ", unterminated name") name.length
    else if unit = [terminator] then
      if name.isEmpty then refuse ("missing " ++ what) 1 else return name
    else takeUntil terminator what fuel (name ++ unit)

/-- Takes a name of any length up to a terminator. -/
def takeName (terminator : Char) (what : String) : Reader (List Char) := do
  takeUntil terminator what ((← get).rest.length + 1) []

end Reader

open Reader

/-- A number of any length in a base, from its digits. -/
def ofDigits (base : Nat) (ds : List Char) : Nat :=
  ds.foldl (fun n c => base * n + (Json.hexValue? c).getD 0) 0

/-- A digit of the octal notation. -/
def isOctal (c : Char) : Bool := '0' ≤ c && c ≤ '7'

/-- A digit of the hexadecimal notation. -/
def isHex (c : Char) : Bool := (Json.hexValue? c).isSome

/-- The codes of escapes that stand for control characters. -/
def controlEscape? (c : Char) : Option Nat :=
  if c == 'a' then some 7
  else if c == 'b' then some 8
  else if c == 'f' then some 12
  else if c == 'n' then some 10
  else if c == 'r' then some 13
  else if c == 't' then some 9
  else if c == 'v' then some 11
  else if c == '\\' then some 92
  else none

/-- The class that an escape stands for. -/
def classEscape? (c : Char) : Option SetItem :=
  if c == 'd' then some (.category .digit false)
  else if c == 'D' then some (.category .digit true)
  else if c == 's' then some (.category .space false)
  else if c == 'S' then some (.category .space true)
  else if c == 'w' then some (.category .word false)
  else if c == 'W' then some (.category .word true)
  else none

/-- Refuses an escape with everything read of it. -/
def refuseEscape {α : Type} (reason : String) (escape : List Char) : Reader α :=
  refuse (reason ++ " " ++ String.ofList escape) escape.length

/-- An escape with a fixed number of hexadecimal digits. -/
def readHexEscape (letter : Char) (count : Nat) : Reader Nat := do
  let ds ← takeWhile isHex count
  let escape := '\\' :: letter :: ds
  if ds.length ≠ count then refuseEscape "incomplete escape" escape
  else
    let code := ofDigits 16 ds
    if 0x10FFFF < code then refuseEscape "bad escape" escape else return code

/-- An escape with the name of a character; no names are known. -/
def readNameEscape : Reader Nat := do
  if !(← accept '\x7b') then refuse "missing \x7b"
  else
    let name ← takeName '\x7d' "character name"
    refuse ("undefined character name " ++ String.ofList (Value.displayQuoted (String.ofList name)))
      (name.length + 4)

/-- An octal code, refused beyond a byte. -/
def octalCode (escape : List Char) : Reader Nat := do
  let code := ofDigits 8 (escape.drop 1)
  if 0o377 < code then
    refuse ("octal escape value " ++ String.ofList escape ++ " outside of range 0-0o377")
      escape.length
  else return code

/-- The escapes that are the same inside and outside of sets: codes in figures, and characters that
stand for themselves. -/
def readCommonEscape (c : Char) : Reader Nat := do
  if c == 'x' then readHexEscape c 2
  else if c == 'u' then readHexEscape c 4
  else if c == 'U' then readHexEscape c 8
  else if c == 'N' then readNameEscape
  else if c.isAlpha || c.isDigit then refuseEscape "bad escape" ['\\', c]
  else return c.toNat

def readSetEscape (c : Char) : Reader SetItem := do
  match controlEscape? c, classEscape? c with
  | some code, _ => return .one code
  | none, some item => return item
  | none, none =>
    if isOctal c then
      let ds ← takeWhile isOctal 2
      return .one (← octalCode ('\\' :: c :: ds))
    else return .one (← readCommonEscape c)

/-- Refuses a reference to a group that the look behind under way cannot see. -/
def checkBehind (index : Nat) : Reader Unit := do
  let r ← get
  match r.behindFrom with
  | none => return ()
  | some groups =>
    if ((r.widths[index]?).join).isNone then refuse "cannot refer to an open group"
    else if groups ≤ index then
      refuse "cannot refer to group defined in the same lookbehind subpattern"

/-- A reference to a group by its number. -/
def readReference (mode : Mode) (escape : List Char) : Reader Node := do
  let index := ofDigits 10 (escape.drop 1)
  let r ← get
  match r.widths[index]? with
  | none => refuse ("invalid group reference " ++ toString index) (escape.length - 1)
  | some none => refuse "cannot refer to an open group" escape.length
  | some (some width) =>
    checkBehind index
    return .backref index width mode

/-- An escape that begins with a digit other than zero: three octal digits are a code, anything
else refers to a group. -/
def readDigitEscape (mode : Mode) (first : Char) : Reader Node := do
  match ← peek with
  | [second] =>
    if second.isDigit then
      discard take
      let third ← peek
      match third with
      | [t] =>
        if isOctal first && isOctal second && isOctal t then
          discard take
          return .one ⟨[.one (← octalCode ['\\', first, second, t])], false⟩ mode
        else readReference mode ['\\', first, second]
      | _ => readReference mode ['\\', first, second]
    else readReference mode ['\\', first]
  | _ => readReference mode ['\\', first]

/-- The anchor that an escape stands for. -/
def anchorEscape? (mode : Mode) (c : Char) : Option Anchor :=
  if c == 'A' then some .textStart
  else if c == 'Z' then some .textEnd
  else if c == 'b' then some (.boundary mode.ascii false)
  else if c == 'B' then some (.boundary mode.ascii true)
  else none

/-- An escape outside of a set. -/
def readEscape (mode : Mode) (c : Char) : Reader Node := do
  match anchorEscape? mode c, classEscape? c, controlEscape? c with
  | some a, _, _ => return .anchor a
  | none, some item, _ => return .one ⟨[item], false⟩ mode
  | none, none, some code => return .one ⟨[.one code], false⟩ mode
  | none, none, none =>
    if c == '0' then
      let ds ← takeWhile isOctal 2
      return .one ⟨[.one (ofDigits 8 ('0' :: ds))], false⟩ mode
    else if c.isDigit then readDigitEscape mode c
    else return .one ⟨[.one (← readCommonEscape c)], false⟩ mode

/-- One unit inside a set, as an item. -/
def readSetUnit (unit : List Char) : Reader SetItem :=
  match unit with
  | ['\\', c] => readSetEscape c
  | [c] => return .one c.toNat
  | _ => return .one 0

/-- The codes of a range; only single characters bound one. -/
def rangeOf? : SetItem → SetItem → Option SetItem
  | .one first, .one last => if last < first then none else some (.range first last)
  | _, _ => none

/-- Reads the items of a set up to its end. `opening` is the place of its bracket. -/
def readSetItems (opening : Nat) : Nat → List SetItem → Reader (List SetItem)
  | 0, items => return items
  | fuel + 1, items => do
    let unterminated : Reader (List SetItem) := do
      refuse "unterminated character set" ((← get).place - opening)
    let unit ← take
    if unit.isEmpty then unterminated
    else if unit = [']'] && !items.isEmpty then return items
    else
      let item ← readSetUnit unit
      if ← accept '-' then
        let other ← take
        if other.isEmpty then unterminated
        else if other = [']'] then return items ++ [item, .one '-'.toNat]
        else
          let last ← readSetUnit other
          match rangeOf? item last with
          | some range => readSetItems opening fuel (items ++ [range])
          | none =>
            refuse ("bad character range " ++ String.ofList unit ++ "-" ++ String.ofList other)
              (unit.length + 1 + other.length)
      else readSetItems opening fuel (items ++ [item])

/-- Reads a set behind its opening bracket. -/
def readSet (mode : Mode) : Reader Node := do
  let opening := (← get).place - 1
  let negated ← accept '^'
  let items ← readSetItems opening ((← get).rest.length + 1) []
  return .one ⟨items, negated⟩ mode

/-- The first number of repetitions that cannot be stated. -/
def maxRepeat : Nat := 0xFFFFFFFF

/-- The first number of a group that cannot be asked for. -/
def maxGroup : Nat := 0x3FFFFFFF

/-- A bound of a repetition from its digits. -/
def boundOf (ds : List Char) : Reader Nat := do
  if Numeral.maxDigits < ds.length then throw (.numeralTooLong ds.length)
  else
    let n := ofDigits 10 ds
    if maxRepeat ≤ n then throw .repetitionTooLarge else return n

/-- Reads the bounds of a repetition in braces. None if the brace stands for itself. -/
def readBounds : Reader (Option (Nat × Option Nat)) := do
  let start ← get
  if (← peek) = ['\x7d'] then return none
  else
    let length := start.rest.length
    let low ← takeWhile Char.isDigit length
    let comma ← accept ','
    let high ← if comma then takeWhile Char.isDigit length else pure low
    if !(← accept '\x7d') then
      set start
      return none
    else
      let least ← boundOf low
      if high.isEmpty then return some (least, none)
      else
        let most ← boundOf high
        if most < least then
          refuse "min repeat greater than max repeat" ((← get).place - start.place)
        else return some (least, some most)

/-- A part of a sequence, and whether it is an anchor or a repetition by itself. -/
structure Part where
  node : Node
  isAnchor : Bool := false
  isRepetition : Bool := false

/-- The sequence of some parts, which come latest first. -/
def sequenceOf (parts : List Part) : Node :=
  match parts with
  | [] => .empty
  | p :: rest => rest.foldl (fun node q => .seq q.node node) p.node

/-- Reads how often a repetition tries before it goes on. -/
def readGreed : Reader Greed := do
  if ← accept '?' then return .lazy
  else if ← accept '+' then return .possessive
  else return .greedy

/-- Makes the last part a repetition. `sign` is the place of its sign. -/
def readRepetition (sign : Nat) (low : Nat) (high : Option Nat) (parts : List Part) :
    Reader (List Part) := do
  match parts with
  | [] => refuse "nothing to repeat" ((← get).place - sign)
  | p :: rest =>
    if p.isAnchor then refuse "nothing to repeat" ((← get).place - sign)
    else if p.isRepetition then refuse "multiple repeat" ((← get).place - sign)
    else
      let greed ← readGreed
      return { node := .repetition greed low high p.node, isRepetition := true } :: rest

def isFlag (c : Char) : Bool :=
  c == 'i' || c == 'L' || c == 'm' || c == 's' || c == 'x' || c == 'a' || c == 't' || c == 'u'

/-- Whether flags decide between ASCII and all characters. -/
def isTypeFlag (c : Char) : Bool := c == 'a' || c == 'u' || c == 'L'

/-- Reads one flag after another that is to be switched off, up to the colon. -/
def readOffFlags : Nat → Char → Flags → Reader Flags
  | 0, _, off => return off
  | fuel + 1, c, off => do
    if isTypeFlag c then refuse "bad inline flags: cannot turn off flags 'a', 'u' and 'L'"
    else
      let off := c :: off
      match ← take with
      | [] => refuse "missing :"
      | [d] =>
        if d == ':' then return off
        else if isFlag d then readOffFlags fuel d off
        else refuse (if isLetter d then "unknown flag" else "missing :") 1
      | unit => refuse "missing :" unit.length
where
  /-- A letter of any script. -/
  isLetter (c : Char) : Bool := beginsName c && c != '_'

/-- Reads one flag after another that is to be switched on, up to a sign that ends them. -/
def readOnFlags : Nat → Char → Flags → Reader (Flags × Char)
  | 0, c, on => return (on, c)
  | fuel + 1, c, on => do
    if c == 'L' then refuse "bad inline flags: cannot use 'L' flag with a str pattern"
    else
      let on := c :: on
      if isTypeFlag c && on.any (fun d => isTypeFlag d && d != c) then
        refuse "bad inline flags: flags 'a', 'u' and 'L' are incompatible"
      else
        match ← take with
        | [] => refuse "missing -, : or )"
        | [d] =>
          if d == ')' || d == '-' || d == ':' then return (on, d)
          else if isFlag d then readOnFlags fuel d on
          else
            refuse (if readOffFlags.isLetter d then "unknown flag" else "missing -, : or )") 1
        | unit => refuse "missing -, : or )" unit.length

/-- Reads flags behind the question mark. None if they hold for the whole pattern. -/
def readFlags (c : Char) : Reader (Option (Flags × Flags)) := do
  let fuel := (← get).rest.length + 1
  let (on, stop) ← if c == '-' then pure ([], '-') else readOnFlags fuel c []
  if stop == ')' then
    modify fun r => { r with flags := on ++ r.flags }
    return none
  else if on.contains 't' then refuse "bad inline flags: cannot turn on global flag" 1
  else if stop == '-' then
    match ← take with
    | [] => refuse "missing flag"
    | [d] =>
      if !isFlag d then
        refuse (if readOffFlags.isLetter d then "unknown flag" else "missing flag") 1
      else
        let off ← readOffFlags fuel d []
        if off.contains 't' then refuse "bad inline flags: cannot turn off global flag" 1
        else if on.any (off.contains ·) then
          refuse "bad inline flags: flag turned on and off" 1
        else return some (on, off)
    | unit => refuse "missing flag" unit.length
  else return some (on, [])

/-- A name in quotes, as it is shown in a fault. -/
def shown (name : List Char) : String :=
  String.ofList (Value.displayQuoted (String.ofList name))

/-- Refuses what is not a name. -/
def checkName (name : List Char) : Reader Unit := do
  if isIdentifier name then return ()
  else refuse ("bad character in group name " ++ shown name) (name.length + 1)

/-- Opens a group and gives its number. -/
def openGroup (name : Option (List Char)) : Reader Nat := do
  let r ← get
  let index := r.widths.length
  set { r with widths := r.widths ++ [none] }
  match name with
  | none => return index
  | some name =>
    let key := String.ofList name
    match r.names.lookup key with
    | some other =>
      refuse ("redefinition of group name " ++ shown name ++ " as group " ++ toString index ++
        "; was group " ++ toString other) (name.length + 1)
    | none =>
      modify fun r => { r with names := r.names ++ [(key, index)] }
      return index

/-- The number of a named group. -/
def groupNamed (name : List Char) : Reader Nat := do
  match (← get).names.lookup (String.ofList name) with
  | some index => return index
  | none => refuse ("unknown group name " ++ shown name) (name.length + 1)

/-- Reads a back reference by name, behind its equals sign. -/
def readNamedReference (mode : Mode) : Reader Node := do
  let name ← takeName ')' "group name"
  checkName name
  let index ← groupNamed name
  match ((← get).widths[index]?).join with
  | none => refuse "cannot refer to an open group" (name.length + 1)
  | some width =>
    checkBehind index
    return .backref index width mode

/-- Reads the group that a condition asks for. -/
def readCondition : Reader Nat := do
  let name ← takeName ')' "group name"
  let index ←
    if isIdentifier name then groupNamed name
    else
      match Numeral.int (String.ofList name) with
      | .ok (.ofNat 0) => refuse "bad group number" (name.length + 1)
      | .ok (.ofNat n) =>
        if maxGroup ≤ n then refuse ("invalid group reference " ++ toString n) (name.length + 1)
        else
          modify fun r =>
            if (r.asked.lookup n).isSome then r
            else { r with asked := r.asked ++ [(n, r.place - name.length - 1)] }
          pure n
      | _ => refuse ("bad character in group name " ++ shown name) (name.length + 1)
  checkBehind index
  return index

/-- Skips a remark up to its end. -/
def skipRemark (opening : Nat) : Nat → Reader Unit
  | 0 => return ()
  | fuel + 1 => do
    match ← take with
    | [] => refuse "missing ), unterminated comment" ((← get).place - opening)
    | [')'] => return ()
    | _ => skipRemark opening fuel

/-- Skips a remark up to the end of the line. -/
def skipLine : Nat → Reader Unit
  | 0 => return ()
  | fuel + 1 => do
    match ← take with
    | [] => return ()
    | ['\n'] => return ()
    | _ => skipLine fuel

/-- What kind of group begins. -/
inductive Opening where
  | capture (name : Option (List Char))
  | plain (on off : Flags)
  | atomic
  | look (negated behind : Bool)
  | condition (index : Nat)
  | done (node : Option Node)
  | wholeFlags

/-- Reads the kind of a look behind. -/
def readBehind : Reader Opening := do
  match ← take with
  | ['='] => return .look false true
  | ['!'] => return .look true true
  | [] => refuse "unexpected end of pattern"
  | unit => refuse ("unknown extension ?<" ++ String.ofList unit) (unit.length + 2)

/-- Reads the kind of a group with a name. -/
def readNamed (mode : Mode) : Reader Opening := do
  if ← accept '<' then
    let name ← takeName '>' "group name"
    checkName name
    return .capture (some name)
  else if ← accept '=' then return .done (some (← readNamedReference mode))
  else
    match ← take with
    | [] => refuse "unexpected end of pattern"
    | unit => refuse ("unknown extension ?P" ++ String.ofList unit) (unit.length + 2)

/-- Reads the kind of a group behind its bracket, which stands at `opening`. -/
def readOpening (mode : Mode) (opening : Nat) : Reader Opening := do
  if !(← accept '?') then return .capture none
  else
    match ← take with
    | [] => refuse "unexpected end of pattern"
    | ['P'] => readNamed mode
    | [':'] => return .plain [] []
    | ['#'] =>
      -- an unfinished remark is reported where the pattern ends
      skipRemark opening ((← get).rest.length + 1)
      return .done none
    | ['='] => return .look false false
    | ['!'] => return .look true false
    | ['<'] => readBehind
    | ['('] => return .condition (← readCondition)
    | ['>'] => return .atomic
    | [c] =>
      if isFlag c || c == '-' then
        match ← readFlags c with
        | none => return .wholeFlags
        | some (on, off) => return .plain on off
      else refuse ("unknown extension ?" ++ c.toString) 2
    | unit => refuse ("unknown extension ?" ++ String.ofList unit) (unit.length + 1)

/-- Expects the end of a group that began at `opening`. -/
def closeBracket (opening : Nat) : Reader Unit := do
  if ← accept ')' then return ()
  else refuse "missing ), unterminated subpattern" ((← get).place - opening)

/-- The white space that a pattern may be laid out with. -/
def isLayout (c : Char) : Bool :=
  c == ' ' || c == '\t' || c == '\n' || c == '\r' || c.toNat == 11 || c.toNat == 12

/-- Where a sequence stands: its settings, whether it is laid out with white space, whether it is
part of a group, and whether it is the first of the whole pattern. -/
structure Place where
  scope : Scope := []
  verbose : Bool := false
  nested : Bool := false
  first : Bool := false

def alternativesOf : List Node → Node
  | [] => .empty
  | [node] => node
  | node :: rest => .alt node (alternativesOf rest)

mutual

/-- Reads alternatives up to the end of their group. -/
def readAlternatives : Nat → Place → List Node → Reader Node
  | 0, _, nodes => return alternativesOf nodes
  | fuel + 1, p, nodes => do
    let node ← readSequence fuel { p with first := !p.nested && nodes.isEmpty } []
    if ← accept '|' then
      let r ← get
      let verbose := if p.nested then p.verbose else r.flags.contains 'x'
      readAlternatives fuel { p with verbose } (nodes ++ [node])
    else return alternativesOf (nodes ++ [node])

/-- Reads a sequence up to its end; `parts` holds what was read, latest first. -/
def readSequence : Nat → Place → List Part → Reader Node
  | 0, _, parts => return sequenceOf parts
  | fuel + 1, p, parts => do
    let mode := Mode.within (← get).flags p.scope
    let add (node : Node) : Reader Node := readSequence fuel p ({ node } :: parts)
    let literal (c : Char) : Reader Node := add (.one ⟨[.one c.toNat], false⟩ mode)
    match ← peek with
    | [] => return sequenceOf parts
    | ['|'] => return sequenceOf parts
    | [')'] => return sequenceOf parts
    | ['\\', c] =>
      discard take
      let node ← readEscape mode c
      let isAnchor := match node with
        | .anchor _ => true
        | _ => false
      readSequence fuel p ({ node, isAnchor } :: parts)
    | [c] =>
      let sign := (← get).place
      discard take
      let rest := (← get).rest.length
      if p.verbose && isLayout c then readSequence fuel p parts
      else if p.verbose && c == '#' then
        skipLine (rest + 1)
        readSequence fuel p parts
      else if c == '[' then add (← readSet mode)
      else if c == '.' then add (.any mode.dotAll)
      else if c == '^' then
        readSequence fuel p
          ({ node := .anchor (if mode.multiline then .lineStart else .textStart)
             isAnchor := true } :: parts)
      else if c == '$' then
        readSequence fuel p
          ({ node := .anchor (if mode.multiline then .lineEnd else .finalEnd)
             isAnchor := true } :: parts)
      else if c == '?' then
        readSequence fuel p (← readRepetition sign 0 (some 1) parts)
      else if c == '*' then
        readSequence fuel p (← readRepetition sign 0 none parts)
      else if c == '+' then
        readSequence fuel p (← readRepetition sign 1 none parts)
      else if c == '\x7b' then
        match ← readBounds with
        | none => literal c
        | some (low, high) =>
          readSequence fuel p (← readRepetition sign low high parts)
      else if c == '(' then
        match ← readOpening mode sign with
        | .done none => readSequence fuel p parts
        | .done (some node) => add node
        | .wholeFlags =>
          let r ← get
          if !p.first || !parts.isEmpty then
            refuse "global flags not at the start of the expression" (r.place - sign)
          else readSequence fuel { p with verbose := r.flags.contains 'x' } parts
        | kind => add (← readGroup fuel p sign kind)
      else literal c
    | _ => return sequenceOf parts

/-- Reads the contents of a group, which began at `opening`, and its end. -/
def readGroup : Nat → Place → Nat → Opening → Reader Node
  | 0, _, _, _ => return .empty
  | fuel + 1, p, opening, kind => do
    let inner := { p with nested := true, first := false }
    match kind with
    | .capture name =>
      let index ← openGroup name
      let body ← readAlternatives fuel inner []
      closeBracket opening
      modify fun r => { r with widths := r.widths.set index (some body.width) }
      return .group index body
    | .plain on off =>
      let verbose := (p.verbose || on.contains 'x') && !off.contains 'x'
      let body ← readAlternatives fuel { inner with scope := p.scope ++ [(on, off)], verbose } []
      closeBracket opening
      return body
    | .atomic =>
      let body ← readAlternatives fuel inner []
      closeBracket opening
      return .atomic body
    | .look negated behind =>
      let outer := (← get).behindFrom
      if behind then
        modify fun r => { r with behindFrom := some (outer.getD r.widths.length) }
      let body ← readAlternatives fuel inner []
      if behind then modify fun r => { r with behindFrom := outer }
      closeBracket opening
      return .look negated behind body
    | .condition index =>
      let present ← readSequence fuel inner []
      if ← accept '|' then
        let absent ← readSequence fuel inner []
        if (← peek) = ['|'] then refuse "conditional backref with more than two branches"
        else
          closeBracket opening
          return .choice index present absent
      else
        closeBracket opening
        return .onlyIf index present
    | _ => return .empty

end

/-- Whether a pattern repeats anything; the name of the first repetition. -/
def repetitionName? : Node → Option String
  | .repetition .greedy _ _ _ => some "MAX_REPEAT"
  | .repetition .lazy _ _ _ => some "MIN_REPEAT"
  | .repetition .possessive _ _ _ => some "POSSESSIVE_REPEAT"
  | .seq a b => (repetitionName? a).orElse fun _ => repetitionName? b
  | .alt a b => (repetitionName? a).orElse fun _ => repetitionName? b
  | .group _ a => repetitionName? a
  | .look _ _ a => repetitionName? a
  | .atomic a => repetitionName? a
  | .choice _ a b => (repetitionName? a).orElse fun _ => repetitionName? b
  | .onlyIf _ a => repetitionName? a
  | _ => none

/-- A pattern that is ready to be matched, and the number of its groups. -/
structure Compiled where
  node : Node
  groups : Nat

/-- Checks a pattern as a whole. -/
def finish (node : Node) : Reader Compiled := do
  let r ← get
  if r.flags.contains 'a' && r.flags.contains 'u' then throw .incompatibleFlags
  else if !r.rest.isEmpty then refuse "unbalanced parenthesis"
  else
    match r.asked.find? fun (index, _) => r.widths.length ≤ index with
    | some (index, place) =>
      throw (.malformed ("invalid group reference " ++ toString index) (some place))
    | none =>
      match if r.flags.contains 't' then repetitionName? node else none with
      | some name =>
        throw (.malformed ("internal: unsupported template operator " ++ name) none)
      | none =>
        match node.widthFault? with
        | some reason => throw (.malformed reason none)
        | none => return { node, groups := r.widths.length - 1 }

/-- Reads a pattern with some flags switched on from the start. -/
def compile (flags : Flags) (pattern : String) : Except Fault Compiled :=
  let rest := pattern.toList
  let fuel := 4 * rest.length + 8
  let reading : Reader Compiled := do
    checkEnd
    let node ← readAlternatives fuel { verbose := flags.contains 'x' } []
    finish node
  (reading.run { rest, flags }).map (·.1)

/-- The reason for refusing a pattern in words. A place is told by its number and, if the pattern
has several lines, by line and column too. -/
def describe (pattern reason : String) (place : Option Nat) : String :=
  match place with
  | none => reason
  | some n =>
    let before := pattern.toList.take n
    let line := before.countP (· == '\n') + 1
    let column := (before.reverse.takeWhile (· != '\n')).length + 1
    reason ++ " at position " ++ toString n ++
      (if pattern.toList.contains '\n' then
        " (line " ++ toString line ++ ", column " ++ toString column ++ ")"
      else "")

end Gamebook.Pattern
