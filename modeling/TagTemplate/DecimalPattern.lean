import TagTemplate.Double.Arithmetic
import TagTemplate.Double.Rounded

/-!
Patterns for decimal numbers, such as `#,##0.00`. A pattern is a run of placeholders, in which `0`
marks a digit that always shows and `#` one that shows if needed, between two literal texts.
-/

namespace TagTemplate

structure DecimalPattern where
  before : List Char
  behind : List Char
  minInteger : Nat
  groupSize : Option Nat
  minFraction : Nat
  maxFraction : Nat
  percent : Bool
  deriving Repr, DecidableEq

namespace DecimalPattern

def isPlaceholder (character : Char) : Bool :=
  character = '0' || character = '#'

def isPatternCharacter (character : Char) : Bool :=
  isPlaceholder character || character = ',' || character = '.'

def isReserved (character : Char) : Bool :=
  isPatternCharacter character || character = ';' || character = '\'' || character = 'E'

def placesBehindComma (integer : List Char) : Option Nat :=
  if integer.contains ',' then some (integer.reverse.takeWhile (· ≠ ',')).length else none

def ofParts? (before integer fraction behind : List Char) : Option DecimalPattern :=
  let groupSize := placesBehindComma integer
  if (before ++ behind).any isReserved || !fraction.all isPlaceholder ||
      !(integer ++ fraction).any isPlaceholder || groupSize == some 0 then
    none
  else
    some
      { before := before
        behind := behind
        minInteger := integer.count '0'
        groupSize := groupSize
        minFraction := fraction.count '0'
        maxFraction := fraction.length
        percent := (before ++ behind).contains '%' }

/-- The placeholders are the first run of pattern characters. -/
def ofChars? (pattern : List Char) : Option DecimalPattern :=
  let before := pattern.takeWhile (!isPatternCharacter ·)
  let others := pattern.dropWhile (!isPatternCharacter ·)
  let body := others.takeWhile isPatternCharacter
  let behind := others.dropWhile isPatternCharacter
  ofParts? before (body.takeWhile (· ≠ '.')) ((body.dropWhile (· ≠ '.')).drop 1) behind

/-- Digits with a comma wherever a multiple of the group size is left. -/
def group (size : Nat) : List Char → List Char
  | [] => []
  | digit :: others =>
      if others.length ≠ 0 ∧ others.length % size = 0 then digit :: ',' :: group size others
      else digit :: group size others

def trimFraction (minimum : Nat) (digits : List Char) : List Char :=
  digits.take minimum ++ ((digits.drop minimum).reverse.dropWhile (· == '0')).reverse

def padInteger (minimum : Nat) (digits : List Char) : List Char :=
  Double.padLeft minimum (digits.dropWhile (· == '0'))

def digits (pattern : DecimalPattern) (rank : Nat) : List Char :=
  let (whole, places) := Double.rounded rank pattern.maxFraction
  let fraction := trimFraction pattern.minFraction places
  let padded := padInteger pattern.minInteger whole
  let integer := if padded.isEmpty && fraction.isEmpty then ['0'] else padded
  let grouped := match pattern.groupSize with
    | some size => group size integer
    | none => integer
  if fraction.isEmpty then grouped else grouped ++ '.' :: fraction

def format (pattern : DecimalPattern) (number : Double) : String :=
  let scaled := if pattern.percent then number.multiply (.ofInt 100) else number
  let sign := if scaled.isBelowZero then ['-'] else []
  let rank := Double.rank scaled
  let shown :=
    if Double.infinityRank < rank then "NaN".toList
    else if rank = Double.infinityRank then ['∞']
    else pattern.digits rank
  String.ofList (sign ++ pattern.before ++ shown ++ pattern.behind)

end DecimalPattern

def formatDecimal? (pattern : String) (number : Double) : Option String :=
  (DecimalPattern.ofChars? pattern.toList).map fun parsed => parsed.format number

end TagTemplate
