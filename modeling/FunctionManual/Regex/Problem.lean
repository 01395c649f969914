import FunctionManual.Text.Lines
import FunctionManual.Text.Quoted
import FunctionManual.Number.Integer

/-!
# What is wrong with a pattern

* `Regex.Problem`: the causes for which a pattern is refused.
* `Regex.Error`: a problem and its position, or a number too large to be a count.
* `Regex.Error.message`: the wording; in a pattern of several lines the position is also given
  as line and column.
-/

namespace FunctionManual.Regex

open FunctionManual.Text

/-- Why a pattern is refused. -/
inductive Problem
  | trailingBackslash
  | badEscape (escape : String)
  | incompleteEscape (escape : String)
  | octalRange (escape : String)
  | missingBrace
  | missing (what : String)
  | unterminatedName (terminator : Char)
  | undefinedCharacter (name : String)
  | badRange (low high : String)
  | unterminatedSet
  | crossedCounts
  | nothingToRepeat
  | multipleRepeat
  | unexpectedEnd
  | unknownExtension (text : String)
  | badGroupName (name : String)
  | unknownGroup (name : String)
  | redefinedGroup (name : String) (group previous : Nat)
  | openGroup
  | lookbehindGroup
  | invalidGroup (index : Nat)
  | badGroupNumber
  | unterminatedComment
  | unterminatedGroup
  | tooManyBranches
  | lateFlags
  | localeFlag
  | incompatibleFlags
  | missingFlagEnd
  | unknownFlag
  | globalFlagOn
  | missingFlag
  | tableFlagOff
  | missingColon
  | globalFlagOff
  | flagOnAndOff
  | unbalanced
  | variableLookbehind
  | longLookbehind
  | templateLoop (operator : String)
  deriving DecidableEq, Repr

/-- The wording of a problem. -/
def Problem.message : Problem → String
  | .trailingBackslash => "bad escape (end of pattern)"
  | .badEscape e => s!"bad escape {e}"
  | .incompleteEscape e => s!"incomplete escape {e}"
  | .octalRange e => s!"octal escape value {e} outside of range 0-0o377"
  | .missingBrace => "missing \x7b"
  | .missing what => s!"missing {what}"
  | .unterminatedName t => s!"missing {t}, unterminated name"
  | .undefinedCharacter n => s!"undefined character name {quoted n}"
  | .badRange a b => s!"bad character range {a}-{b}"
  | .unterminatedSet => "unterminated character set"
  | .crossedCounts => "min repeat greater than max repeat"
  | .nothingToRepeat => "nothing to repeat"
  | .multipleRepeat => "multiple repeat"
  | .unexpectedEnd => "unexpected end of pattern"
  | .unknownExtension t => s!"unknown extension {t}"
  | .badGroupName n => s!"bad character in group name {quoted n}"
  | .unknownGroup n => s!"unknown group name {quoted n}"
  | .redefinedGroup n g p => s!"redefinition of group name {quoted n} as group {g}; was group {p}"
  | .openGroup => "cannot refer to an open group"
  | .lookbehindGroup => "cannot refer to group defined in the same lookbehind subpattern"
  | .invalidGroup i => s!"invalid group reference {i}"
  | .badGroupNumber => "bad group number"
  | .unterminatedComment => "missing ), unterminated comment"
  | .unterminatedGroup => "missing ), unterminated subpattern"
  | .tooManyBranches => "conditional backref with more than two branches"
  | .lateFlags => "global flags not at the start of the expression"
  | .localeFlag => "bad inline flags: cannot use 'L' flag with a str pattern"
  | .incompatibleFlags => "bad inline flags: flags 'a', 'u' and 'L' are incompatible"
  | .missingFlagEnd => "missing -, : or )"
  | .unknownFlag => "unknown flag"
  | .globalFlagOn => "bad inline flags: cannot turn on global flag"
  | .missingFlag => "missing flag"
  | .tableFlagOff => "bad inline flags: cannot turn off flags 'a', 'u' and 'L'"
  | .missingColon => "missing :"
  | .globalFlagOff => "bad inline flags: cannot turn off global flag"
  | .flagOnAndOff => "bad inline flags: flag turned on and off"
  | .unbalanced => "unbalanced parenthesis"
  | .variableLookbehind => "look-behind requires fixed-width pattern"
  | .longLookbehind => "looks too much behind"
  | .templateLoop op => s!"internal: unsupported template operator {op}"

/-- Why a pattern was not read: a problem, where it has a position, a number beyond all limits, or
switches for the whole pattern that choose two character tables. -/
inductive Error
  | problem (problem : Problem) (position : Option Nat)
  | hugeCount
  | hugeNumber (digits : Nat)
  | bothTables
  deriving DecidableEq, Repr

/-- The wording of an error of the pattern `source`. -/
def Error.message (source : List Char) : Error → String
  | .problem p none => p.message
  | .problem p (some pos) =>
    let plain := s!"{p.message} at position {pos}"
    if source.contains '\n' then
      let (line, column) := lineColumn source pos
      s!"{plain} (line {line}, column {column})"
    else plain
  | .hugeCount => "the repetition number is too large"
  | .hugeNumber n => Integer.tooLongMessage n
  | .bothTables => "ASCII and UNICODE flags are incompatible"

end FunctionManual.Regex
