import TagTemplate.Integer
import TagTemplate.Double.Decimal

/-!
Numbers: 64-bit integers and doubles, and the texts that denote them.
-/

namespace TagTemplate

inductive Number where
  | integer (number : Int64)
  | double (number : Double)

namespace Number

def toDouble : Number → Double
  | .integer number => Double.ofInt number.toInt
  | .double number => number

def readDouble? (negative : Bool) (digits : List Char) : Option Double :=
  (Double.Decimal.read? digits).map fun decimal => Double.ofRank negative decimal.rank

/-- A number literal: an integer if it reads as one, otherwise a double, with at most a minus sign
in front. -/
def ofLiteral? (literal : List Char) : Option Number :=
  match Integer.read? literal with
  | some number => some (integer number)
  | none =>
      match literal with
      | '-' :: digits => (readDouble? true digits).map double
      | digits => (readDouble? false digits).map double

def isMargin (character : Char) : Bool :=
  character.toNat ≤ ' '.toNat

def trimMargins (characters : List Char) : List Char :=
  ((characters.dropWhile isMargin).reverse.dropWhile isMargin).reverse

def isTypeSuffix (character : Char) : Bool :=
  character = 'd' || character = 'D' || character = 'f' || character = 'F'

def dropTypeSuffix (characters : List Char) : List Char :=
  if characters.getLast?.any isTypeSuffix then characters.dropLast else characters

/-- The magnitude of a double, its sign given: `NaN`, `Infinity` or a numeral. -/
def magnitudeOfText? (negative : Bool) (characters : List Char) : Option Double :=
  if characters = "NaN".toList then some Double.nan
  else if characters = "Infinity".toList then some (Double.ofRank negative Double.infinityRank)
  else readDouble? negative (dropTypeSuffix characters)

def doubleOfText? (characters : List Char) : Option Double :=
  match trimMargins characters with
  | '-' :: unsigned => magnitudeOfText? true unsigned
  | '+' :: unsigned => magnitudeOfText? false unsigned
  | unsigned => magnitudeOfText? false unsigned

/-- The number a text denotes as an operand: an integer if it reads as one exactly as it stands,
otherwise a double. -/
def ofText? (text : String) : Option Number :=
  match Integer.read? text.toList with
  | some number => some (integer number)
  | none => (doubleOfText? text.toList).map double

end Number

end TagTemplate
