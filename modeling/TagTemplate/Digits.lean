/-!
Runs of ASCII digits and the natural numbers they denote.
-/

namespace TagTemplate.Digits

def value (digits : List Char) : Nat :=
  Nat.ofDigitChars 10 digits 0

def text (number : Nat) : List Char :=
  Nat.toDigits 10 number

def read? (characters : List Char) : Option Nat :=
  if !characters.isEmpty && characters.all Char.isDigit then some (value characters) else none

theorem value_text (number : Nat) : value (text number) = number :=
  Nat.ofDigitChars_ten_toDigits

theorem text_ne_nil (number : Nat) : text number ≠ [] :=
  Nat.toDigits_ne_nil

theorem isDigit_of_mem_text {number : Nat} {character : Char} (member : character ∈ text number) :
    character.isDigit = true :=
  Nat.isDigit_of_mem_toDigits (by decide) (by decide) member

theorem read?_text (number : Nat) : read? (text number) = some number := by
  have digits : (text number).all Char.isDigit = true :=
    List.all_eq_true.mpr fun _ member => isDigit_of_mem_text member
  simp [read?, digits, text_ne_nil, value_text]

end TagTemplate.Digits
