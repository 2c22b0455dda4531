/-!
# Blank characters and cutting text

A character is blank when it has the Unicode property `White_Space`.  This
module trims blanks from both ends of a text, cuts a text at the first
occurrence of a mark, and splits a text at every occurrence of a mark.  The
functions are given on lists of characters first; the versions on strings
convert and apply them.
-/

namespace WorkloadPolicy
namespace Text

/-- The Unicode property `White_Space`. -/
def isBlank (character : Char) : Bool :=
  let code := character.toNat
  (9 ≤ code && code ≤ 13) || code == 0x20 || code == 0x85 || code == 0xA0 ||
    code == 0x1680 || (0x2000 ≤ code && code ≤ 0x200A) || code == 0x2028 ||
    code == 0x2029 || code == 0x202F || code == 0x205F || code == 0x3000

/-- Remove leading blanks. -/
def trimStartChars (characters : List Char) : List Char :=
  characters.dropWhile isBlank

/-- Remove leading and trailing blanks. -/
def trimChars (characters : List Char) : List Char :=
  (trimStartChars (trimStartChars characters).reverse).reverse

/-- Remove leading and trailing blanks from a text. -/
def trim (text : String) : String :=
  String.ofList (trimChars text.toList)

/-- The characters before the first `mark` and those after it.  Without a
mark everything stands before it. -/
def cutChars (mark : Char) (characters : List Char) : List Char × List Char :=
  (characters.takeWhile (· != mark), (characters.dropWhile (· != mark)).drop 1)

/-- Cut a text at the first `mark`. -/
def cut (mark : Char) (text : String) : String × String :=
  let (before, after) := cutChars mark text.toList
  (String.ofList before, String.ofList after)

/-- The pieces between consecutive marks; a text without a mark is one piece. -/
def splitChars (mark : Char) : List Char → List (List Char)
  | [] => [[]]
  | character :: rest =>
      if character = mark then
        [] :: splitChars mark rest
      else
        match splitChars mark rest with
        | [] => [[character]]
        | piece :: pieces => (character :: piece) :: pieces

/-- The pieces of a text between consecutive marks. -/
def split (mark : Char) (text : String) : List String :=
  (splitChars mark text.toList).map String.ofList

/-- Lower an ASCII capital and keep every other character. -/
def lowerAscii (character : Char) : Char :=
  if 'A' ≤ character ∧ character ≤ 'Z' then
    Char.ofNat (character.toNat + 32)
  else
    character

/-- Equality of character lists that ignores the case of ASCII letters. -/
def equalIgnoringAsciiCase (left right : List Char) : Bool :=
  left.map lowerAscii == right.map lowerAscii

@[simp] theorem trimStartChars_nil : trimStartChars [] = [] := rfl

@[simp] theorem trimChars_nil : trimChars [] = [] := rfl

theorem cutChars_cons_self (mark : Char) (rest : List Char) :
    cutChars mark (mark :: rest) = ([], rest) := by
  simp [cutChars]

theorem cutChars_cons_of_ne
    {mark character : Char}
    (different : character ≠ mark)
    (rest : List Char) :
    cutChars mark (character :: rest) =
      (character :: (cutChars mark rest).1, (cutChars mark rest).2) := by
  simp [cutChars, different]

/-- Cutting at a mark that stands right after a part without marks gives back
that part and the rest. -/
theorem cutChars_append
    {mark : Char}
    {before : List Char}
    (unmarked : mark ∉ before)
    (after : List Char) :
    cutChars mark (before ++ mark :: after) = (before, after) := by
  induction before with
  | nil => exact cutChars_cons_self mark after
  | cons character before hypothesis =>
      simp only [List.mem_cons, not_or] at unmarked
      rw [List.cons_append,
        cutChars_cons_of_ne (fun equal => unmarked.1 equal.symm),
        hypothesis unmarked.2]

theorem splitChars_ne_nil (mark : Char) (characters : List Char) :
    splitChars mark characters ≠ [] := by
  cases characters with
  | nil => simp [splitChars]
  | cons character rest =>
      rw [splitChars]
      split
      · simp
      · split <;> simp

end Text
end WorkloadPolicy
