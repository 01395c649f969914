import FunctionManual.Regex.Problem
import FunctionManual.Regex.Single
import FunctionManual.Text.CharName.Basic
import FunctionManual.Text.Letter

/-!
# Reading patterns

A pattern is read item by item with one item of lookahead, an escape counting as one item.

* `Regex.Pattern`: a pattern with its switches, its groups and the items to match.
* `Regex.readPattern`: the pattern of a text, or the first error.
-/

namespace FunctionManual.Regex

open FunctionManual.Text

/-- What is known while a pattern is read: the text ahead and its position, the switches turned on
so far, the names and widths of the groups opened so far, and the references to check at the end. -/
structure Reading where
  rest : List Char
  pos : Nat
  flags : Flags := {}
  names : List (String × Nat) := []
  /-- The widths of groups one, two, …; `none` while a group is open. -/
  widths : Array (Option (Nat × Nat)) := #[]
  /-- The number of groups when the outermost lookbehind was entered. -/
  lookbehind : Option Nat := none
  references : List (Nat × Nat) := []

/-- A step of reading. -/
abbrev Read := StateT Reading (Except Error)

namespace Reading

/-- The next item: a character, or a backslash and the character behind it. -/
def next? (r : Reading) : Option (List Char) :=
  match r.rest with
  | [] => none
  | '\\' :: c :: _ => some ['\\', c]
  | c :: _ => some [c]

/-- The number of groups, the whole match counted as one. -/
def groups (r : Reading) : Nat := r.widths.size + 1

/-- A group that is closed can be referred to. -/
def isClosed (r : Reading) (index : Nat) : Bool :=
  match index with
  | 0 => false
  | i + 1 => (r.widths[i]?.join).isSome

/-- The width of a closed group. -/
def groupWidth (r : Reading) (index : Nat) : Nat × Nat :=
  match index with
  | 0 => (0, 0)
  | i + 1 => (r.widths[i]?.join).getD (0, 0)

end Reading

/-! ## Moving through the text -/

/-- Refuses with the position `offset` characters before the next item. -/
def refuse {α : Type} (p : Problem) (offset : Nat) : Read α := fun r =>
  .error (.problem p (some (r.pos - offset)))

/-- A backslash that ends the pattern is found as soon as it comes next. -/
def checkNext : Read Unit := fun r =>
  match r.rest with
  | ['\\'] => .error (.problem .trailingBackslash (some r.pos))
  | _ => .ok ((), r)

/-- The next item, left in place. -/
def peek : Read (Option (List Char)) := fun r => .ok (r.next?, r)

/-- Takes the next item. -/
def take : Read (Option (List Char)) := do
  let r ← get
  match r.next? with
  | none => pure none
  | some item =>
    set { r with rest := r.rest.drop item.length, pos := r.pos + item.length }
    checkNext
    pure (some item)

/-- Takes the next item if it is the character `c`. -/
def accept (c : Char) : Read Bool := do
  if (← peek) = some [c] then
    let _ ← take
    pure true
  else pure false

/-- The position of the next item. -/
def position : Read Nat := fun r => .ok (r.pos, r)

/-- Takes at most `n` characters that `p` accepts. -/
def takeWhileUpTo (p : Char → Bool) : Nat → Read (List Char)
  | 0 => pure []
  | n + 1 => do
    match ← peek with
    | some [c] =>
      if p c then
        let _ ← take
        return c :: (← takeWhileUpTo p n)
      else pure []
    | _ => pure []

/-- Takes characters up to `terminator`, which is taken too; `taken` holds those before. -/
def takeUntil (terminator : Char) (what : String) : Nat → List Char → Read (List Char)
  | 0, taken => pure taken
  | fuel + 1, taken => do
    match ← take with
    | none =>
      if taken.isEmpty then refuse (.missing what) 0
      else refuse (.unterminatedName terminator) taken.length
    | some item =>
      if item = [terminator] then
        if taken.isEmpty then refuse (.missing what) 1 else pure taken
      else takeUntil terminator what fuel (taken ++ item)

/-- Takes a name that ends at `terminator`. -/
def takeName (terminator : Char) (what : String) : Read (List Char) := do
  takeUntil terminator what ((← get).rest.length + 1) []

/-! ## Escapes -/

/-- Hexadecimal digits of either case. -/
def isHex (c : Char) : Bool :=
  isAsciiDigit c || ('a' ≤ c && c ≤ 'f') || ('A' ≤ c && c ≤ 'F')

/-- Octal digits. -/
def isOctal (c : Char) : Bool := '0' ≤ c && c ≤ '7'

/-- The value of a digit of any base up to sixteen. -/
def digitValue (c : Char) : Nat :=
  if isAsciiDigit c then c.toNat - 48 else if c.toNat < 97 then c.toNat - 55 else c.toNat - 87

/-- The value of digits in a base. -/
def valueOf (base : Nat) (digits : List Char) : Nat :=
  digits.foldl (fun n c => n * base + digitValue c) 0

/-- Escapes of control characters. -/
def controlEscape? : Char → Option Nat
  | 'a' => some 7
  | 'b' => some 8
  | 'f' => some 12
  | 'n' => some 10
  | 'r' => some 13
  | 't' => some 9
  | 'v' => some 11
  | '\\' => some 92
  | _ => none

/-- Escapes of character classes. -/
def classEscape? : Char → Option (CharClass × Bool)
  | 'd' => some (.digit, false)
  | 'D' => some (.digit, true)
  | 's' => some (.space, false)
  | 'S' => some (.space, true)
  | 'w' => some (.word, false)
  | 'W' => some (.word, true)
  | _ => none

/-- Escapes of positions. -/
def anchorEscape? : Char → Option Anchor
  | 'A' => some .textStart
  | 'b' => some .wordEdge
  | 'B' => some .notWordEdge
  | 'Z' => some .textEnd
  | _ => none

/-- The text of an escape from its characters. -/
def escapeText (c : Char) (more : List Char) : String := String.ofList ('\\' :: c :: more)

/-- A code written with exactly `width` hexadecimal digits. -/
def hexEscape (c : Char) (width : Nat) : Read Nat := do
  let digits ← takeWhileUpTo isHex width
  if digits.length < width then
    refuse (.incompleteEscape (escapeText c digits)) (digits.length + 2)
  else
    let code := valueOf 16 digits
    if code > 0x10FFFF then refuse (.badEscape (escapeText c digits)) (digits.length + 2)
    else pure code

/-- A character given by name. -/
def namedEscape : Read Nat := do
  if !(← accept '\x7b') then refuse .missingBrace 0
  let name ← takeName '\x7d' "character name"
  match CharName.find? (String.ofList name) with
  | some code => pure code
  | none => refuse (.undefinedCharacter (String.ofList name)) (name.length + 4)

/-- Escapes that are read alike inside and outside of sets. -/
def commonEscape? (c : Char) : Option (Read Nat) :=
  match c with
  | 'x' => some (hexEscape c 2)
  | 'u' => some (hexEscape c 4)
  | 'U' => some (hexEscape c 8)
  | 'N' => some namedEscape
  | _ => none

/-- An escaped character that is not special stands for itself, unless it is an ASCII letter. -/
def selfEscape (c : Char) : Read Nat :=
  if c.isAlpha then refuse (.badEscape (escapeText c [])) 2 else pure c.toNat

/-- The meaning of the escape `\c` inside a set. -/
def setEscape (c : Char) : Read SetItem := do
  if let some code := controlEscape? c then return .char code
  if let some (category, negated) := classEscape? c then return .category category negated
  if let some read := commonEscape? c then return .char (← read)
  if isOctal c then
    let more ← takeWhileUpTo isOctal 2
    let code := valueOf 8 (c :: more)
    if code > 255 then refuse (.octalRange (escapeText c more)) (more.length + 2)
    return .char code
  if isAsciiDigit c then refuse (.badEscape (escapeText c [])) 2
  return .char (← selfEscape c)

/-- A group can be referred to from inside a lookbehind only if it was closed before. -/
def checkLookbehind (index : Nat) : Read Unit := do
  let r ← get
  if let some before := r.lookbehind then
    if !r.isClosed index then refuse .openGroup 0
    if index ≥ before then refuse .lookbehindGroup 0

/-- A reference to the group `index`; its text has `length` characters. -/
def backreference (index length : Nat) : Read Node := do
  let r ← get
  if index < r.groups then
    if !r.isClosed index then refuse .openGroup length
    checkLookbehind index
    pure (.backref index)
  else refuse (.invalidGroup index) (length - 1)

/-- An escape that begins with a digit other than zero: three octal digits are a code, else it
refers to a group. -/
def digitEscape (c : Char) : Read Node := do
  match ← peek with
  | some [d] =>
    if isAsciiDigit d then
      let _ ← take
      let third ← peek
      match third with
      | some [e] =>
        if isOctal c && isOctal d && isOctal e then
          let _ ← take
          let code := valueOf 8 [c, d, e]
          if code > 255 then refuse (.octalRange (escapeText c [d, e])) 4
          else return .one (.char code)
        else backreference (valueOf 10 [c, d]) 3
      | _ => backreference (valueOf 10 [c, d]) 3
    else backreference (valueOf 10 [c]) 2
  | _ => backreference (valueOf 10 [c]) 2

/-- The meaning of the escape `\c` outside of sets. -/
def itemEscape (c : Char) : Read Node := do
  if let some a := anchorEscape? c then return .anchor a
  if let some (category, negated) := classEscape? c then
    return .one (.set false [.category category negated])
  if let some code := controlEscape? c then return .one (.char code)
  if let some read := commonEscape? c then return .one (.char (← read))
  if c = '0' then return .one (.char (valueOf 8 (← takeWhileUpTo isOctal 2)))
  if isAsciiDigit c then return (← digitEscape c)
  return .one (.char (← selfEscape c))

/-! ## Sets -/

/-- The code of a set item that is one character. -/
def SetItem.code? : SetItem → Option Nat
  | .char code => some code
  | _ => none

/-- The meaning of an item inside a set. -/
def setItem (item : List Char) : Read SetItem :=
  match item with
  | ['\\', c] => setEscape c
  | c :: _ => pure (.char c.toNat)
  | [] => pure (.char 0)

/-- The members of a set up to its closing bracket; the set began at `start`. -/
def setItems (start : Nat) : Nat → List SetItem → Read (List SetItem)
  | 0, items => pure items
  | fuel + 1, items => do
    match ← take with
    | none => refuse .unterminatedSet ((← position) - start)
    | some this =>
      if this = [']'] && !items.isEmpty then return items
      let first ← setItem this
      if !(← accept '-') then setItems start fuel (items ++ [first])
      else match ← take with
        | none => refuse .unterminatedSet ((← position) - start)
        | some that =>
          if that = [']'] then return items ++ [first, .char 45]
          let second ← setItem that
          let bad : Read (List SetItem) :=
            refuse (.badRange (String.ofList this) (String.ofList that))
              (this.length + 1 + that.length)
          match first.code?, second.code? with
          | some low, some high =>
            if high < low then bad else setItems start fuel (items ++ [.range low high])
          | _, _ => bad

/-- A set; its opening bracket is taken. A set of one character is that character. -/
def readSet : Read Node := do
  let start := (← position) - 1
  let negated ← accept '^'
  let items ← setItems start ((← get).rest.length + 1) []
  match items.eraseDups with
  | [.char code] => pure (.one (if negated then .notChar code else .char code))
  | distinct => pure (.one (.set negated distinct))

/-! ## Counts -/

/-- Counts below this limit are read. -/
def countLimit : Nat := 4294967295

/-- The value of a written count. -/
def readCount (digits : List Char) : Read Nat := fun r =>
  match Integer.readPlain digits with
  | .error (.tooLong n) => .error (.hugeNumber n)
  | .error .malformed => .error .hugeCount
  | .ok i => if i.toNat ≥ countLimit then .error .hugeCount else .ok (i.toNat, r)

/-- The bounds behind an opening brace, or `none` when the braces hold no count. -/
def readBounds : Read (Option (Nat × Option Nat)) := do
  let saved ← get
  if (← peek) = some ['\x7d'] then return none
  let low ← takeWhileUpTo isAsciiDigit saved.rest.length
  let high ← if ← accept ',' then takeWhileUpTo isAsciiDigit saved.rest.length else pure low
  if !(← accept '\x7d') then
    set saved
    return none
  let least ← if low.isEmpty then pure 0 else readCount low
  if high.isEmpty then return some (least, none)
  let most ← readCount high
  if most < least then refuse .crossedCounts ((← position) - saved.pos)
  return some (least, some most)

/-- The mark behind a repeat character. -/
def readGreed : Read Greed := do
  if ← accept '?' then return .lazy
  if ← accept '+' then return .possessive
  return .greedy

/-- A group without index and switches is its items. -/
def unpack (items : List Node) : List Node :=
  items.flatMap fun item =>
    match item with
    | .group none add remove body => if add.isEmpty && remove.isEmpty then body else [item]
    | _ => [item]

/-- The loop that repeats the last of the items read so far, which are in reverse; `start` is the
position behind the repeat character and `length` the length of that character. -/
def applyLoop (items : List Node) (least : Nat) (most : Option Nat) (start : Nat) :
    Read (List Node) := do
  let offset := (← position) - start + 1
  match items with
  | [] => refuse .nothingToRepeat offset
  | .anchor _ :: _ => refuse .nothingToRepeat offset
  | .loop .. :: _ => refuse .multipleRepeat offset
  | item :: before =>
    let greed ← readGreed
    pure (.loop greed least most (unpack [item]) :: before)

/-! ## Switches -/

/-- The switch that a letter names; the locale switch is refused wherever it is named. -/
def flagOf? : Char → Option Flags
  | 'i' => some { ignoreCase := true }
  | 'L' => some {}
  | 'm' => some { multiline := true }
  | 's' => some { dotAll := true }
  | 'x' => some { verbose := true }
  | 'a' => some { ascii := true }
  | 't' => some { template := true }
  | 'u' => some { unicode := true }
  | _ => none

/-- Switches to turn on, from the letter `c` on; returns them and the character that ends them. -/
def flagsOn : Nat → Char → Flags → Read (Flags × Char)
  | 0, c, on => pure (on, c)
  | fuel + 1, c, on => do
    if c = 'L' then refuse .localeFlag 0
    let flag := (flagOf? c).getD {}
    let on := on.union flag
    if flag.hasTable && on.ascii && on.unicode then refuse .incompatibleFlags 0
    match ← take with
    | none => refuse .missingFlagEnd 0
    | some item =>
      match item with
      | [d] =>
        if d = ')' || d = '-' || d = ':' then return (on, d)
        if (flagOf? d).isNone then
          refuse (if isLetter d then .unknownFlag else .missingFlagEnd) 1
        flagsOn fuel d on
      | _ => refuse .missingFlagEnd item.length

/-- Switches to turn off, from the letter `c` on, up to the colon. -/
def flagsOff : Nat → Char → Flags → Read Flags
  | 0, _, off => pure off
  | fuel + 1, c, off => do
    let flag := (flagOf? c).getD {}
    if flag.hasTable || c = 'L' then refuse .tableFlagOff 0
    let off := off.union flag
    match ← take with
    | none => refuse .missingColon 0
    | some item =>
      match item with
      | [d] =>
        if d = ':' then return off
        if (flagOf? d).isNone then
          refuse (if isLetter d then .unknownFlag else .missingColon) 1
        flagsOff fuel d off
      | _ => refuse .missingColon item.length

/-- Inline switches from the character `c` on: `none` when they hold for the whole pattern, which
they change at once; else those to add and to remove in a group. -/
def readFlags (c : Char) : Read (Option (Flags × Flags)) := do
  let fuel := (← get).rest.length + 1
  let (on, stop) ← if c = '-' then pure (({} : Flags), '-') else flagsOn fuel c {}
  if stop = ')' then
    modify fun r => { r with flags := r.flags.union on }
    return none
  if on.template then refuse .globalFlagOn 1
  if stop = ':' then return some (on, {})
  let off ← match ← take with
    | none => refuse .missingFlag 0
    | some item =>
      match item with
      | [d] =>
        if (flagOf? d).isNone then
          refuse (if isLetter d then .unknownFlag else .missingFlag) 1
        else flagsOff fuel d {}
      | _ => refuse .missingFlag item.length
  if off.template then refuse .globalFlagOff 1
  if !(on.inter off).isEmpty then refuse .flagOnAndOff 1
  return some (on, off)

/-! ## Groups -/

/-- A name for a group. -/
def checkGroupName (name : List Char) : Read Unit := do
  if !isName name then refuse (.badGroupName (String.ofList name)) (name.length + 1)

/-- Opens a group and returns its index. -/
def openGroup (name : Option (List Char)) : Read Nat := do
  let r ← get
  let index := r.groups
  match name with
  | none => set { r with widths := r.widths.push none }
  | some chars =>
    let text := String.ofList chars
    match r.names.lookup text with
    | some previous => refuse (.redefinedGroup text index previous) (chars.length + 1)
    | none => set { r with widths := r.widths.push none, names := r.names ++ [(text, index)] }
  pure index

/-- Closes the group `index`, whose items are `body`. -/
def closeGroup (index : Nat) (body : List Node) : Read Unit :=
  modify fun r =>
    { r with widths := r.widths.setIfInBounds (index - 1) (some (width r.groupWidth body)) }

/-- A reference by name; its opening is taken. -/
def namedReference : Read Node := do
  let name ← takeName ')' "group name"
  checkGroupName name
  let r ← get
  match r.names.lookup (String.ofList name) with
  | none => refuse (.unknownGroup (String.ofList name)) (name.length + 1)
  | some index =>
    if !r.isClosed index then refuse .openGroup (name.length + 1)
    checkLookbehind index
    pure (.backref index)

/-- The largest number of groups. -/
def groupLimit : Nat := 1073741823

/-- The group that a condition tests. -/
def conditionGroup : Read Nat := do
  let name ← takeName ')' "group name"
  let text := String.ofList name
  if isName name then
    match (← get).names.lookup text with
    | none => refuse (.unknownGroup text) (name.length + 1)
    | some index => pure index
  else
    match Integer.read text with
    | .ok (.ofNat 0) => refuse .badGroupNumber (name.length + 1)
    | .ok (.ofNat index) =>
      if index ≥ groupLimit then refuse (.invalidGroup index) (name.length + 1)
      let at_ := (← position) - name.length - 1
      modify fun r =>
        if (r.references.lookup index).isSome then r
        else { r with references := r.references ++ [(index, at_)] }
      pure index
    | _ => refuse (.badGroupName text) (name.length + 1)

/-- Skips a comment; its opening is taken, and the group began at `start`. -/
def skipComment (start : Nat) : Nat → Read Unit
  | 0 => pure ()
  | fuel + 1 => do
    match ← take with
    | none => refuse .unterminatedComment ((← position) - start)
    | some item => if item = [')'] then pure () else skipComment start fuel

/-- Skips the rest of a line in a verbose pattern. -/
def skipLine : Nat → Read Unit
  | 0 => pure ()
  | fuel + 1 => do
    match ← take with
    | none => pure ()
    | some item => if item = ['\n'] then pure () else skipLine fuel

/-- Takes the parenthesis that closes the group begun at `start`. -/
def closeParenthesis (start : Nat) : Read Unit := do
  if !(← accept ')') then refuse .unterminatedGroup ((← position) - start)

/-! ## Items -/

/-- What parentheses hold: an item, a comment, or switches for the whole pattern. -/
inductive Group
  | item (node : Node)
  | comment
  | switches

mutual

/-- A choice between rows of items; `outermost` outside of all groups. -/
def readChoice : Nat → Bool → Bool → Read (List Node)
  | 0, _, _ => pure []
  | fuel + 1, verbose, outermost => do
    let first ← readItems fuel verbose outermost []
    let others ← readAlternatives fuel verbose outermost []
    match others with
    | [] => pure first
    | _ => pure (choiceOf first others)

/-- The alternatives behind the first. -/
def readAlternatives : Nat → Bool → Bool → List (List Node) → Read (List (List Node))
  | 0, _, _, read => pure read
  | fuel + 1, verbose, outermost, read => do
    if ← accept '|' then
      let r ← get
      let verbose := if outermost then r.flags.verbose else verbose
      let items ← readItems fuel verbose false []
      readAlternatives fuel verbose outermost (read ++ [items])
    else pure read

/-- A row of items; `first` at the very start of the pattern, where switches for the whole pattern
may stand. Items read so far are in reverse. -/
def readItems : Nat → Bool → Bool → List Node → Read (List Node)
  | 0, _, _, items => pure (unpack items.reverse)
  | fuel + 1, verbose, first, items => do
    match ← peek with
    | none => pure (unpack items.reverse)
    | some item =>
      if item = ['|'] || item = [')'] then return unpack items.reverse
      let _ ← take
      match item with
      | ['\\', c] =>
        let node ← itemEscape c
        readItems fuel verbose first (node :: items)
      | [c] =>
        if verbose && isVerboseBlank c then readItems fuel verbose first items
        else if verbose && c = '#' then
          skipLine ((← get).rest.length + 1)
          readItems fuel verbose first items
        else match c with
          | '[' =>
            let node ← readSet
            readItems fuel verbose first (node :: items)
          | '?' =>
            let items ← applyLoop items 0 (some 1) (← position)
            readItems fuel verbose first items
          | '*' =>
            let items ← applyLoop items 0 none (← position)
            readItems fuel verbose first items
          | '+' =>
            let items ← applyLoop items 1 none (← position)
            readItems fuel verbose first items
          | '\x7b' =>
            let start ← position
            match ← readBounds with
            | none => readItems fuel verbose first (.one (.char c.toNat) :: items)
            | some (least, most) =>
              let items ← applyLoop items least most start
              readItems fuel verbose first items
          | '.' => readItems fuel verbose first (.one .any :: items)
          | '^' => readItems fuel verbose first (.anchor .lineStart :: items)
          | '$' => readItems fuel verbose first (.anchor .lineEnd :: items)
          | '(' =>
            match ← readGroup fuel verbose (first && items.isEmpty) with
            | .item node => readItems fuel verbose first (node :: items)
            | .comment => readItems fuel verbose first items
            | .switches =>
              let r ← get
              readItems fuel r.flags.verbose first items
          | _ => readItems fuel verbose first (.one (.char c.toNat) :: items)
      | _ => readItems fuel verbose first items

/-- A group whose parenthesis is taken. -/
def readGroup : Nat → Bool → Bool → Read Group
  | 0, _, _ => pure .comment
  | fuel + 1, verbose, first => do
    let start := (← position) - 1
    if !(← accept '?') then
      return .item (← readBody fuel verbose start none {} {} true)
    match ← take with
    | none => refuse .unexpectedEnd 0
    | some item =>
      match item with
      | ['P'] =>
        if ← accept '<' then
          let name ← takeName '>' "group name"
          checkGroupName name
          return .item (← readBody fuel verbose start (some name) {} {} true)
        if ← accept '=' then return .item (← namedReference)
        match ← take with
          | none => refuse .unexpectedEnd 0
          | some other =>
            refuse (.unknownExtension ("?P" ++ String.ofList other)) (other.length + 2)
      | [':'] => return .item (← readBody fuel verbose start none {} {} false)
      | ['#'] =>
        skipComment start ((← get).rest.length + 1)
        return .comment
      | ['='] => return .item (.ahead false (← readLook fuel verbose start))
      | ['!'] => return .item (.ahead true (← readLook fuel verbose start))
      | ['<'] =>
        match ← take with
        | none => refuse .unexpectedEnd 0
        | some other =>
          if other = ['='] || other = ['!'] then
            let outer := (← get).lookbehind
            if outer.isNone then modify fun r => { r with lookbehind := some r.groups }
            let body ← readChoice fuel verbose false
            modify fun r => { r with lookbehind := outer }
            closeParenthesis start
            let (least, most) := width (← get).groupWidth body
            return .item (.behind (other = ['!']) least most body)
          else refuse (.unknownExtension ("?<" ++ String.ofList other)) (other.length + 2)
      | ['('] =>
        let index ← conditionGroup
        checkLookbehind index
        let yes ← readItems fuel verbose false []
        let no ← if ← accept '|' then
            let no ← readItems fuel verbose false []
            if (← peek) = some ['|'] then refuse .tooManyBranches 0
            pure no
          else pure []
        closeParenthesis start
        return .item (.conditional index yes no)
      | ['>'] => do
        let body ← readChoice fuel verbose false
        closeParenthesis start
        return .item (.atomic body)
      | [c] =>
        if (flagOf? c).isSome || c = '-' then
          match ← readFlags c with
          | none =>
            if !first then refuse .lateFlags ((← position) - start)
            return .switches
          | some (add, remove) =>
            return .item (← readBody fuel verbose start none add remove false)
        else refuse (.unknownExtension ("?" ++ String.ofList item)) (item.length + 1)
      | _ => refuse (.unknownExtension ("?" ++ String.ofList item)) (item.length + 1)

/-- The body of a lookahead and its closing parenthesis. -/
def readLook : Nat → Bool → Nat → Read (List Node)
  | 0, _, _ => pure []
  | fuel + 1, verbose, start => do
    let body ← readChoice fuel verbose false
    closeParenthesis start
    pure body

/-- The body of a group and its closing parenthesis. -/
def readBody : Nat → Bool → Nat → Option (List Char) → Flags → Flags → Bool → Read Node
  | 0, _, _, _, _, _, _ => pure (.one .any)
  | fuel + 1, verbose, start, name, add, remove, capture => do
    let index ← if capture then some <$> openGroup name else pure none
    let body ← readChoice fuel ((verbose || add.verbose) && !remove.verbose) false
    closeParenthesis start
    if let some i := index then closeGroup i body
    pure (.group index add remove body)

end

/-! ## Whole patterns -/

/-- The operator that a loop is reported as. -/
def Greed.operator : Greed → String
  | .greedy => "MAX_REPEAT"
  | .lazy => "MIN_REPEAT"
  | .possessive => "POSSESSIVE_REPEAT"

mutual

/-- Checks made once a pattern is read: lookbehinds have one width, templates have no loops. -/
def Node.check (template : Bool) : Node → Except Error Unit
  | .loop greed _ _ body => do
    if template then throw (.problem (.templateLoop greed.operator) none)
    checkItems template body
  | .behind _ least most body => do
    if least > 4294967295 then throw (.problem .longLookbehind none)
    if least ≠ most then throw (.problem .variableLookbehind none)
    checkItems template body
  | .group _ _ _ body | .atomic body | .ahead _ body => checkItems template body
  | .branch alternatives => checkAlternatives template alternatives
  | .conditional _ yes no => do
    checkItems template yes
    checkItems template no
  | _ => pure ()

/-- Checks items in a row. -/
def checkItems (template : Bool) : List Node → Except Error Unit
  | [] => pure ()
  | n :: rest => do
    n.check template
    checkItems template rest

/-- Checks a choice. -/
def checkAlternatives (template : Bool) : List (List Node) → Except Error Unit
  | [] => pure ()
  | n :: rest => do
    checkItems template n
    checkAlternatives template rest

end

/-- A pattern that has been read. -/
structure Pattern where
  flags : Flags
  /-- The number of groups, the whole match left out. -/
  groups : Nat
  /-- The named groups in the order they open. -/
  names : List (String × Nat)
  items : List Node
  /-- No match is shorter. -/
  least : Nat

/-- Reads a pattern. -/
def readPattern (source : List Char) : Except Error Pattern := do
  let fuel := 4 * source.length + 8
  let ((), r) ← checkNext.run { rest := source, pos := 0 }
  let (items, r) ← (readChoice fuel false true).run r
  if r.flags.ascii && r.flags.unicode then throw .bothTables
  if r.next?.isSome then throw (.problem .unbalanced (some r.pos))
  for (index, pos) in r.references do
    if index ≥ r.groups then throw (.problem (.invalidGroup index) (some pos))
  checkItems r.flags.template items
  let flags := if r.flags.ascii then r.flags else { r.flags with unicode := true }
  pure ⟨flags, r.groups - 1, r.names, items, (width r.groupWidth items).1⟩

end FunctionManual.Regex
