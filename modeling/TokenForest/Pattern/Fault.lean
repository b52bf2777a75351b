import TokenForest.Excess
import TokenForest.Text.Quoted

/-!
# Faults of written patterns

What can be wrong with the written form of a pattern, where, and how it is reported.
-/

namespace TokenForest.Pattern

/-- What is wrong with a written pattern. -/
inductive Flaw where
  | danglingEscape
  | badEscape (written : String)
  | incompleteEscape (written : String)
  | octalTooLarge (written : String)
  | missingBrace
  | undefinedCharacter (name : String)
  | unterminatedSet
  | badRange (low high : String)
  | nothingToRepeat
  | multipleRepeat
  | leastAboveMost
  | unterminatedGroup
  | unterminatedComment
  | unbalancedParenthesis
  | endInGroup
  | unknownExtension (written : String)
  | missingName (what : String)
  | unterminatedName (terminator : Char)
  | badName (name : String)
  | unknownName (name : String)
  | redefinedName (name : String) (group earlier : Nat)
  | unknownGroup (group : Nat)
  | groupZero
  | openGroup
  | groupBehindItself
  | thirdBranch
  | lateGlobalFlags
  | bytesFlag
  | clashingFlags
  | globalFlagOn
  | globalFlagOff
  | typeFlagOff
  | flagOnAndOff
  | unknownFlag
  | missingFlag
  | missingFlagEnd (expected : String)
  | farLookBehind
  | variableLookBehind
  /-- A repetition, named by what it does, where nothing may be repeated. -/
  | repeatInTemplate (operator : String)
  deriving DecidableEq, Repr

/-- The wording of a flaw. -/
def Flaw.message : Flaw → String
  | .danglingEscape => "bad escape (end of pattern)"
  | .badEscape written => "bad escape " ++ written
  | .incompleteEscape written => "incomplete escape " ++ written
  | .octalTooLarge written =>
    "octal escape value " ++ written ++ " outside of range 0-0o377"
  | .missingBrace => "missing \x7b"
  | .undefinedCharacter name => "undefined character name " ++ Text.Quoted.ofString name
  | .unterminatedSet => "unterminated character set"
  | .badRange low high => "bad character range " ++ low ++ "-" ++ high
  | .nothingToRepeat => "nothing to repeat"
  | .multipleRepeat => "multiple repeat"
  | .leastAboveMost => "min repeat greater than max repeat"
  | .unterminatedGroup => "missing ), unterminated subpattern"
  | .unterminatedComment => "missing ), unterminated comment"
  | .unbalancedParenthesis => "unbalanced parenthesis"
  | .endInGroup => "unexpected end of pattern"
  | .unknownExtension written => "unknown extension " ++ written
  | .missingName what => "missing " ++ what
  | .unterminatedName terminator =>
    "missing " ++ String.singleton terminator ++ ", unterminated name"
  | .badName name => "bad character in group name " ++ Text.Quoted.ofString name
  | .unknownName name => "unknown group name " ++ Text.Quoted.ofString name
  | .redefinedName name group earlier =>
    "redefinition of group name " ++ Text.Quoted.ofString name ++
      s!" as group {group}; was group {earlier}"
  | .unknownGroup group => s!"invalid group reference {group}"
  | .groupZero => "bad group number"
  | .openGroup => "cannot refer to an open group"
  | .groupBehindItself =>
    "cannot refer to group defined in the same lookbehind subpattern"
  | .thirdBranch => "conditional backref with more than two branches"
  | .lateGlobalFlags => "global flags not at the start of the expression"
  | .bytesFlag => "bad inline flags: cannot use 'L' flag with a str pattern"
  | .clashingFlags => "bad inline flags: flags 'a', 'u' and 'L' are incompatible"
  | .globalFlagOn => "bad inline flags: cannot turn on global flag"
  | .globalFlagOff => "bad inline flags: cannot turn off global flag"
  | .typeFlagOff => "bad inline flags: cannot turn off flags 'a', 'u' and 'L'"
  | .flagOnAndOff => "bad inline flags: flag turned on and off"
  | .unknownFlag => "unknown flag"
  | .missingFlag => "missing flag"
  | .missingFlagEnd expected => "missing " ++ expected
  | .farLookBehind => "looks too much behind"
  | .variableLookBehind => "look-behind requires fixed-width pattern"
  | .repeatInTemplate operator => "internal: unsupported template operator " ++ operator

/-- A flaw in a written pattern, with the index of the character where it was noticed. -/
structure FlawAt where
  flaw : Flaw
  position : Option Nat
  written : List Char
  deriving DecidableEq, Repr

/--
The one-line report of a flaw.  The position is a character index; a pattern of several lines also
gets the line and the column.
-/
def FlawAt.message (error : FlawAt) : String :=
  match error.position with
  | none => error.flaw.message
  | some position =>
    let head := error.written.take position
    let line := head.count '\n' + 1
    let column := (head.reverse.takeWhile (· != '\n')).length + 1
    error.flaw.message ++ s!" at position {position}" ++
      (if error.written.contains '\n' then s!" (line {line}, column {column})" else "")

/-- Why a written pattern is refused. -/
inductive Fault where
  | malformed (error : FlawAt)
  | excessive (excess : Excess)
  deriving DecidableEq, Repr

end TokenForest.Pattern
