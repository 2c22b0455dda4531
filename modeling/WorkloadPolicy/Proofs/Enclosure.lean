import Mathlib.Data.List.TakeWhile
import WorkloadPolicy.Proofs.Consumption

/-!
# Reading inside a group

A pattern for whole values is read inside a group that a closing parenthesis and
an anchor end.  A reader that leaves both of them untouched cannot tell whether
they are there: on the text without them it reads the same and leaves the same.
The one exception is an opening brace after the escape of a word boundary, and
nothing can be read from such a brace.

Every reader has this property from the readers it calls.  What they leave is
an end of the text, so that it still has all of the closing text behind it.
Readers with fuel are compared at any two amounts that are enough.
-/

namespace WorkloadPolicy
namespace Regex

/-- What closes the group around a pattern and anchors its end. -/
def closing : List Char := [')', '$']

variable
  {flags : Flags}
  {characters others rest : List Char}
  {first : Char}

theorem exists_append_closing (kept : rest ++ closing <:+ characters) :
    ∃ inner, characters = inner ++ closing := by
  obtain ⟨before, rfl⟩ := kept
  exact ⟨before ++ rest, (List.append_assoc _ _ _).symm⟩

theorem not_suffix_anchor : ¬ rest ++ closing <:+ ['$'] := fun kept => by
  have short := kept.length_le
  simp [closing] at short

/-- A character with all of the closing text after it is one of the pattern. -/
theorem exists_of_append_closing_eq_cons
    (same : characters ++ closing = first :: others)
    (kept : rest ++ closing <:+ others) :
    ∃ inner, characters = first :: inner ∧ others = inner ++ closing := by
  cases characters with
  | nil =>
      cases same
      exact absurd kept not_suffix_anchor
  | cons character inner =>
      cases same
      exact ⟨inner, rfl, rfl⟩

/-- What does not begin with a character does not without the closing text either. -/
theorem ne_cons_inside
    (plain : ∀ tail, characters ++ closing = first :: tail → False)
    (tail : List Char) :
    characters = first :: tail → False :=
  fun same => plain (tail ++ closing) (congrArg (· ++ closing) same)

theorem ne_cons_cons_inside
    {second : Char}
    (plain : ∀ tail, characters ++ closing = first :: second :: tail → False)
    (tail : List Char) :
    characters = first :: second :: tail → False :=
  fun same => plain (tail ++ closing) (congrArg (· ++ closing) same)

theorem head?_append_closing_eq_some_iff (other : first ≠ ')') :
    (characters ++ closing).head? = some first ↔ characters.head? = some first := by
  cases characters with
  | nil => simp [closing, Ne.symm other]
  | cons character characters => rfl

theorem dropWhile_append_closing
    {test : Char → Bool}
    (stops : test ')' = false)
    (characters : List Char) :
    (characters ++ closing).dropWhile test = characters.dropWhile test ++ closing := by
  rw [List.dropWhile_append]
  split
  · rename_i all
    rw [List.isEmpty_iff.1 all]
    simp [closing, stops]
  · rfl

/-- The closing text does not stop a search for a character that it lacks. -/
theorem dropWhile_ne_append_closing
    {sought : Char}
    (absent : sought ∉ closing)
    (characters : List Char) :
    (∃ below,
      characters.dropWhile (· != sought) = sought :: below ∧
        (characters ++ closing).dropWhile (· != sought) = sought :: (below ++ closing) ∧
        (characters ++ closing).takeWhile (· != sought) = characters.takeWhile (· != sought)) ∨
      characters.dropWhile (· != sought) = [] ∧
        (characters ++ closing).dropWhile (· != sought) = [] := by
  induction characters with
  | nil =>
      refine .inr ⟨rfl, List.dropWhile_eq_nil_iff.2 fun character member => ?_⟩
      exact bne_iff_ne.2 fun same => absent (same ▸ member)
  | cons character characters hypothesis =>
      by_cases same : character = sought
      · exact .inl ⟨characters, by simp [same]⟩
      · simpa [same] using hypothesis

/-! ## Blanks and comments -/

theorem dropSpace_append_closing
    {fuel spare : Nat}
    (enough : characters.length < fuel)
    (spared : characters.length < spare) :
    dropSpace fuel (characters ++ closing) = dropSpace spare characters ++ closing ∨
      dropSpace fuel (characters ++ closing) = [] ∧ dropSpace spare characters = [] := by
  induction fuel generalizing spare characters with
  | zero => omega
  | succ fuel hypothesis =>
      obtain ⟨spare, rfl⟩ := Nat.exists_eq_add_one_of_ne_zero (by omega : spare ≠ 0)
      have shorter := (List.dropWhile_suffix Text.isBlank (l := characters)).length_le
      rw [dropSpace, dropSpace, dropWhile_append_closing (by decide)]
      cases passed : characters.dropWhile Text.isBlank with
      | nil => exact .inl rfl
      | cons character others =>
          rw [passed, List.length_cons] at shorter
          by_cases comment : character = '#'
          · subst comment
            have line := (List.dropWhile_suffix (· != '\n') (l := others)).length_le
            -- A comment without an end passes over the closing text too.
            rcases dropWhile_ne_append_closing (by decide : '\n' ∉ closing) others with
              ⟨below, ended, same, _⟩ | ⟨endless, same⟩
            · rw [ended, List.length_cons] at line
              simpa [same, ended] using hypothesis (by omega) (by omega)
            · have nothing (fuel : Nat) : dropSpace fuel [] = [] := by cases fuel <;> rfl
              exact .inr (by simp [same, endless, nothing])
          · exact .inl (by simp [comment])

theorem skipSpace_append_closing (flags : Flags) (characters : List Char) :
    skipSpace flags (characters ++ closing) = skipSpace flags characters ++ closing ∨
      skipSpace flags (characters ++ closing) = [] ∧ skipSpace flags characters = [] := by
  rw [skipSpace, skipSpace]
  split
  · exact dropSpace_append_closing (by rw [List.length_append]; omega) (Nat.lt_succ_self _)
  · exact .inl rfl

theorem skipSpace_inside
    (passed : skipSpace flags (characters ++ closing) = rest ++ closing) :
    skipSpace flags characters = rest := by
  rcases skipSpace_append_closing flags characters with same | ⟨none, _⟩
  · exact List.append_cancel_right (same.symm.trans passed)
  · rw [passed] at none
    simp [closing] at none

theorem skipSpace_cons_inside
    (passed : skipSpace flags (characters ++ closing) = first :: (rest ++ closing)) :
    skipSpace flags characters = first :: rest :=
  skipSpace_inside (List.cons_append ▸ passed)

/-- The first character past blanks, if the closing text comes after it. -/
theorem exists_of_skipSpace_eq_cons
    (passed : skipSpace flags (characters ++ closing) = first :: others)
    (kept : rest ++ closing <:+ others) :
    ∃ inner, others = inner ++ closing ∧ skipSpace flags characters = first :: inner := by
  obtain ⟨inner, rfl⟩ := exists_append_closing kept
  exact ⟨inner, rfl, skipSpace_cons_inside passed⟩

theorem length_lt_of_skipSpace_eq_cons (passed : skipSpace flags characters = first :: rest) :
    rest.length < characters.length :=
  (suffix_of_skipSpace_eq passed).length_le

/-! ## Escapes -/

theorem hexFixed?_inside
    {value code count : Nat}
    (read : hexFixed? flags value count (characters ++ closing) = some (code, rest ++ closing)) :
    hexFixed? flags value count characters = some (code, rest) := by
  induction count generalizing value characters with
  | zero =>
      simp only [hexFixed?, Option.some.injEq, Prod.mk.injEq] at read ⊢
      exact ⟨read.1, List.append_cancel_right read.2⟩
  | succ count hypothesis =>
      cases characters with
      | nil => simp [hexFixed?, closing, hexDigit?] at read
      | cons digit others =>
          simp only [List.cons_append, hexFixed?, Option.bind_eq_bind,
            Option.bind_eq_some_iff] at read ⊢
          obtain ⟨number, found, read⟩ := read
          obtain ⟨inner, passed⟩ := exists_append_closing (hexFixed?_suffix read)
          rw [passed] at read
          rw [skipSpace_inside passed]
          exact ⟨number, found, hypothesis read⟩

theorem hexBraced?_inside
    {value count fuel spare code : Nat}
    (spared : characters.length < spare)
    (read : hexBraced? flags value count fuel (characters ++ closing) =
      some (code, rest ++ closing)) :
    hexBraced? flags value count spare characters = some (code, rest) := by
  induction fuel generalizing value count spare characters with
  | zero => simp [hexBraced?] at read
  | succ fuel hypothesis =>
      obtain ⟨spare, rfl⟩ := Nat.exists_eq_add_one_of_ne_zero (by omega : spare ≠ 0)
      rw [hexBraced?] at read
      split at read
      · simp at read
      · rename_i passed
        split at read
        · simp at read
        · rename_i counted
          cases read
          rw [hexBraced?, skipSpace_cons_inside passed]
          exact if_neg counted
      · rename_i digit others brace passed
        simp only [Option.bind_eq_bind, Option.bind_eq_some_iff] at read
        obtain ⟨number, found, read⟩ := read
        obtain ⟨inner, rfl, inside⟩ := exists_of_skipSpace_eq_cons passed (hexBraced?_suffix read)
        have shorter := length_lt_of_skipSpace_eq_cons inside
        rw [hexBraced?, inside]
        simp only [found, Option.bind_eq_bind, Option.bind_some]
        exact hypothesis (by omega) read

theorem hex?_inside
    {width : Nat}
    {atom : Atom}
    (read : hex? flags width (characters ++ closing) = some (atom, rest ++ closing)) :
    hex? flags width characters = some (atom, rest) := by
  rw [hex?] at read
  split at read
  · rename_i others passed
    simp only [Option.bind_eq_bind, Option.bind_eq_some_iff, Option.some.injEq,
      Prod.mk.injEq] at read
    obtain ⟨⟨code, after⟩, digits, character, valid, rfl, skipped⟩ := read
    have kept := suffix_of_skipSpace_eq skipped
    obtain ⟨between, rfl⟩ := exists_append_closing kept
    obtain ⟨inner, rfl, inside⟩ := exists_of_skipSpace_eq_cons passed (hexBraced?_suffix digits)
    rw [hex?, inside]
    simp [hexBraced?_inside (Nat.lt_succ_self _) digits, valid, skipSpace_inside skipped]
  · rename_i brace
    simp only [Option.bind_eq_bind, Option.bind_eq_some_iff, Option.some.injEq,
      Prod.mk.injEq] at read
    obtain ⟨⟨code, after⟩, digits, character, valid, rfl, rfl⟩ := read
    obtain ⟨inner, passed⟩ := exists_append_closing (hexFixed?_suffix digits)
    have inside := skipSpace_inside passed
    rw [passed] at digits brace
    rw [hex?, inside]
    split
    · simp at brace
    · simp [hexFixed?_inside digits, valid]

theorem braced?_inside
    {reversed name : List Char}
    {fuel spare : Nat}
    (spared : characters.length < spare)
    (read : braced? flags reversed fuel (characters ++ closing) = some (name, rest ++ closing)) :
    braced? flags reversed spare characters = some (name, rest) := by
  induction fuel generalizing reversed spare characters with
  | zero => simp [braced?] at read
  | succ fuel hypothesis =>
      obtain ⟨spare, rfl⟩ := Nat.exists_eq_add_one_of_ne_zero (by omega : spare ≠ 0)
      rw [braced?] at read
      split at read
      · simp at read
      · rename_i passed
        cases read
        rw [braced?, skipSpace_cons_inside passed]
        rfl
      · rename_i character others brace passed
        obtain ⟨inner, rfl, inside⟩ := exists_of_skipSpace_eq_cons passed (braced?_suffix read)
        have shorter := length_lt_of_skipSpace_eq_cons inside
        rw [braced?, inside]
        simpa only using hypothesis (by omega : inner.length < spare) read

theorem propertyName?_inside
    {name : List Char}
    (read : propertyName? flags (characters ++ closing) = some (name, rest ++ closing)) :
    propertyName? flags characters = some (name, rest) := by
  rw [propertyName?] at read
  split at read
  · rename_i others passed
    obtain ⟨inner, rfl, inside⟩ := exists_of_skipSpace_eq_cons passed (braced?_suffix read)
    rw [propertyName?, inside]
    exact braced?_inside (Nat.lt_succ_self _) read
  · simp at read
  · rename_i letter others brace slash passed
    simp only [Option.some.injEq, Prod.mk.injEq] at read
    obtain ⟨rfl, after⟩ := read
    obtain ⟨inner, rfl, inside⟩ := exists_of_skipSpace_eq_cons passed (suffix_of_skipSpace_eq after)
    rw [propertyName?, inside]
    simp [skipSpace_inside after]
  · simp at read

theorem propertyEscape?_inside
    {negated : Bool}
    {atom : Atom}
    (read : propertyEscape? flags negated (characters ++ closing) =
      some (atom, rest ++ closing)) :
    propertyEscape? flags negated characters = some (atom, rest) := by
  rw [propertyEscape?_eq_bind, Option.bind_eq_some_iff] at read ⊢
  obtain ⟨⟨name, after⟩, named, read⟩ := read
  simp only [Option.map_eq_some_iff, Prod.mk.injEq] at read
  obtain ⟨found, stands, rfl, rfl⟩ := read
  exact ⟨(name, rest), propertyName?_inside named, by simp [stands]⟩

theorem boundaryName?_inside
    {reversed name : List Char}
    {fuel spare : Nat}
    (spared : characters.length < spare)
    (read : boundaryName? flags reversed fuel (characters ++ closing) =
      some (name, rest ++ closing)) :
    boundaryName? flags reversed spare characters = some (name, rest) := by
  induction fuel generalizing reversed spare characters with
  | zero => simp [boundaryName?] at read
  | succ fuel hypothesis =>
      obtain ⟨spare, rfl⟩ := Nat.exists_eq_add_one_of_ne_zero (by omega : spare ≠ 0)
      cases characters with
      | nil => simp [boundaryName?, closing] at read
      | cons character others =>
          rw [List.length_cons] at spared
          unfold boundaryName? at read ⊢
          split at read
          · rename_i same
            cases read
            obtain ⟨rfl, after⟩ := List.cons.inj same
            rw [List.append_cancel_right after]
            rfl
          · rename_i letter after brace same
            obtain ⟨rfl, rfl⟩ := List.cons.inj same
            split at read
            · rename_i named
              obtain ⟨inner, passed⟩ := exists_append_closing (boundaryName?_suffix read)
              rw [passed] at read
              have inside := skipSpace_inside passed
              have shorter := (suffix_of_skipSpace_eq inside).length_le
              simp only [named, if_true, inside]
              exact hypothesis (by omega) read
            · simp at read
          · simp at read

/-- Nothing can be read from an opening brace with nothing but blanks after it. -/
def IsOpenBrace (flags : Flags) (characters : List Char) : Prop :=
  ∃ inner, characters = '\x7b' :: inner ∧ skipSpace flags inner = []

/-- Without the closing text, a brace after the escape of a word boundary may be open. -/
theorem boundary?_inside
    {atom : Atom}
    (read : boundary? flags (characters ++ closing) = some (atom, rest ++ closing)) :
    boundary? flags characters = some (atom, rest) ∨
      (∃ condition, atom = .look condition) ∧ IsOpenBrace flags rest := by
  cases characters with
  | nil =>
      rw [List.nil_append, closing, boundary?_eq_some (by decide), Option.some.injEq,
        Prod.mk.injEq] at read
      have empty : rest = [] := by simpa using read.2
      exact .inl (by rw [← read.1, empty]; rfl)
  | cons first others =>
      by_cases brace : first = '\x7b'
      · subst brace
        rw [List.cons_append, boundary?_brace] at read
        split at read
        · simp at read
        · rename_i letter after passed
          split at read
          · rename_i named
            left
            simp only [Option.bind_eq_some_iff, Option.map_eq_some_iff, Prod.mk.injEq] at read
            obtain ⟨⟨name, _⟩, nameRead, atom, stands, rfl, rfl⟩ := read
            obtain ⟨inner, whole⟩ := exists_append_closing (boundaryName?_suffix nameRead)
            cases inner with
            | nil =>
                cases whole
                exact absurd named (by decide)
            | cons first inner =>
                obtain ⟨rfl, rfl⟩ := List.cons.inj whole
                have inside :
                    boundaryName? flags [] (inner.length + 2) (letter :: inner) =
                      some (name, rest) :=
                  boundaryName?_inside (by simp) nameRead
                rw [boundary?_brace, skipSpace_cons_inside passed]
                simp [named, inside, stands]
          · rename_i unnamed
            simp only [Option.some.injEq, Prod.mk.injEq] at read
            obtain ⟨rfl, same⟩ := read
            rw [← List.cons_append] at same
            obtain rfl := List.append_cancel_right same
            rcases skipSpace_append_closing flags others with whole | ⟨none, _⟩
            · cases inside : skipSpace flags others with
              | nil => exact .inr ⟨⟨_, rfl⟩, others, rfl, inside⟩
              | cons first inner =>
                  rw [passed, inside] at whole
                  obtain ⟨rfl, _⟩ := List.cons.inj whole
                  left
                  rw [boundary?_brace, inside]
                  simp [unnamed]
            · rw [passed] at none
              simp at none
      · rw [List.cons_append, boundary?_eq_some brace, Option.some.injEq, Prod.mk.injEq,
          ← List.cons_append] at read
        rw [boundary?_eq_some brace, Option.some.injEq, Prod.mk.injEq]
        exact .inl ⟨read.1, List.append_cancel_right read.2⟩

theorem escape?_inside
    {atom : Atom}
    (read : escape? flags (first :: (others ++ closing)) = some (atom, rest ++ closing)) :
    escape? flags (first :: others) = some (atom, rest) ∨
      (∃ condition, atom = .look condition) ∧ IsOpenBrace flags rest := by
  by_cases short : first ∉ ['x', 'u', 'U', 'p', 'P', 'b']
  · rw [escape?_eq_map short, Option.map_eq_some_iff] at read
    obtain ⟨_, stands, same⟩ := read
    rw [Prod.mk.injEq] at same
    left
    rw [escape?_eq_map short, stands, Option.map_some, same.1, List.append_cancel_right same.2]
  · simp only [List.mem_cons, List.not_mem_nil, or_false, not_not] at short
    rcases short with rfl | rfl | rfl | rfl | rfl | rfl
    · exact .inl (hex?_inside read)
    · exact .inl (hex?_inside read)
    · exact .inl (hex?_inside read)
    · exact .inl (propertyEscape?_inside read)
    · exact .inl (propertyEscape?_inside read)
    · exact boundary?_inside read

/-! ## Classes -/

namespace Class

theorem caret_append_closing (characters : List Char) :
    caret (characters ++ closing) = ((caret characters).1, (caret characters).2 ++ closing) := by
  cases characters with
  | nil => rfl
  | cons first inner =>
      by_cases negated : first = '^'
      · subst negated
        rfl
      · simp [caret, negated]

theorem closed?_append_closing (flags : Flags) (negated : Bool) (characters : List Char) :
    closed? flags negated (characters ++ closing) =
      (closed? flags negated characters).map fun read => (read.1, read.2 ++ closing) := by
  rw [closed?, closed?]
  rcases dropWhile_ne_append_closing (by decide : ':' ∉ closing) characters with
    ⟨below, found, same, name⟩ | ⟨missing, same⟩
  · rw [same, name, found]
    cases below with
    | nil => rfl
    | cons first below =>
        by_cases bracket : first = ']'
        · subst bracket
          simp only [List.cons_append, Option.bind_eq_bind, Option.map_bind]
          rfl
        · simp [bracket]
  · rw [same, missing]
    rfl

/-- No named class reaches into the closing text. -/
theorem named?_append_closing (flags : Flags) (characters : List Char) :
    named? flags (characters ++ closing) =
      (named? flags characters).map fun read => (read.1, read.2 ++ closing) := by
  cases characters with
  | nil => rfl
  | cons first inner =>
      by_cases colon : first = ':'
      · subst colon
        rw [List.cons_append, named?_colon, named?_colon, caret_append_closing,
          closed?_append_closing]
      · simp [named?, colon]

end Class

namespace Bracket

theorem item?_inside
    {atom : Atom}
    (read : item? flags (characters ++ closing) = some (atom, rest ++ closing)) :
    item? flags characters = some (atom, rest) ∨ ∃ condition, atom = .look condition := by
  obtain ⟨first, others, whole, kept⟩ := exists_of_item? read
  obtain ⟨inner, rfl, rfl⟩ := exists_of_append_closing_eq_cons whole kept
  by_cases slash : first = '\\'
  · subst slash
    match inner with
    | [] =>
        have escaped : escape? flags (')' :: ['$']) = some (atom, rest ++ closing) := read
        exact absurd (escape?_suffix escaped) not_suffix_anchor
    | letter :: inner =>
        exact (escape?_inside read).imp_right And.left
  · left
    simp only [item?, List.cons_append, Option.some.injEq, Prod.mk.injEq] at read ⊢
    exact ⟨read.1, List.append_cancel_right read.2⟩

theorem endsRange_append_closing (flags : Flags) (characters : List Char) :
    endsRange flags (characters ++ closing) = endsRange flags characters := by
  rw [endsRange, endsRange]
  rcases skipSpace_append_closing flags characters with whole | ⟨all, none⟩
  · rw [whole]
    cases skipSpace flags characters with
    | nil => rfl
    | cons first inner =>
        by_cases bracket : first = ']'
        · subst bracket
          rfl
        · by_cases hyphen : first = '-'
          · subst hyphen
            rfl
          · simp [bracket, hyphen]
  · rw [all, none]

theorem rangeFrom?_look (condition : Look) (characters : List Char) :
    rangeFrom? flags (.look condition) characters = none := by
  unfold rangeFrom?
  split
  · rfl
  · split
    · rfl
    · exact Option.bind_eq_none_iff.2 fun _ _ => rfl
  · rfl

/-- A range is inside the pattern if some of the pattern comes after it. -/
theorem rangeFrom?_inside
    {left : Atom}
    {members : Unicode.CharSet}
    (more : rest ≠ [])
    (read : rangeFrom? flags left (characters ++ closing) = some (members, rest ++ closing)) :
    rangeFrom? flags left characters = some (members, rest) := by
  unfold rangeFrom? at read
  split at read
  · simp at read
  · rename_i after passed
    split at read
    · rename_i literal
      simp only [Option.bind_eq_bind, Option.bind_eq_some_iff, Option.some.injEq,
        Prod.mk.injEq] at read
      obtain ⟨members, stands, rfl, same⟩ := read
      obtain ⟨first, inner, rfl⟩ := List.exists_cons_of_ne_nil more
      rw [List.cons_append, List.cons.injEq] at same
      obtain ⟨rfl, rfl⟩ := same
      rw [endsRange_append_closing] at literal
      rw [rangeFrom?, skipSpace_cons_inside passed]
      simp [literal, stands]
    · rename_i ranges
      simp only [Option.bind_eq_bind, Option.bind_eq_some_iff, Option.some.injEq,
        Prod.mk.injEq] at read
      obtain ⟨⟨right, _⟩, rightRead, members, stands, rfl, rfl⟩ := read
      obtain ⟨letter, others, passedRight, shorter⟩ := exists_of_item? rightRead
      have kept := shorter.trans (List.suffix_cons letter others)
      rw [← passedRight] at kept
      obtain ⟨inner, rfl⟩ := exists_append_closing (kept.trans (skipSpace_suffix flags after))
      obtain ⟨beyond, inside⟩ := exists_append_closing kept
      rw [inside] at rightRead
      rw [endsRange_append_closing] at ranges
      rw [rangeFrom?, skipSpace_cons_inside passed]
      rcases item?_inside rightRead with found | ⟨condition, rfl⟩
      · simp [ranges, skipSpace_inside inside, found, stands]
      · cases left <;> simp [rangeSet?] at stands
  · rename_i nonempty hyphen
    simp only [Option.bind_eq_bind, Option.bind_eq_some_iff, Option.some.injEq,
        Prod.mk.injEq] at read
    obtain ⟨members, stands, rfl, passed⟩ := read
    obtain ⟨first, inner, rfl⟩ := List.exists_cons_of_ne_nil more
    rw [passed] at hyphen
    rw [rangeFrom?, skipSpace_inside passed]
    split
    · rename_i same
      simp at same
    · rename_i same
      exact (hyphen _ (congrArg (· ++ closing) same)).elim
    · simp [stands]

theorem range?_inside
    {members : Unicode.CharSet}
    (more : rest ≠ [])
    (read : range? flags (characters ++ closing) = some (members, rest ++ closing)) :
    range? flags characters = some (members, rest) := by
  rw [range?_eq_bind, Option.bind_eq_some_iff] at read ⊢
  obtain ⟨⟨left, between⟩, leftRead, read⟩ := read
  obtain ⟨inner, rfl⟩ := exists_append_closing (rangeFrom?_suffix read)
  rcases item?_inside leftRead with found | ⟨condition, rfl⟩
  · exact ⟨_, found, rangeFrom?_inside more read⟩
  · rw [rangeFrom?_look] at read
    simp at read

theorem leadingHyphens_inside
    {progress read : Progress}
    {fuel spare : Nat}
    (enough : characters.length < fuel)
    (spared : characters.length < spare)
    (hyphens : leadingHyphens flags progress fuel (characters ++ closing) =
      (read, rest ++ closing)) :
    leadingHyphens flags progress spare characters = (read, rest) := by
  induction fuel generalizing progress spare characters with
  | zero => omega
  | succ fuel hypothesis =>
      obtain ⟨spare, rfl⟩ := Nat.exists_eq_add_one_of_ne_zero (by omega : spare ≠ 0)
      by_cases hyphen : characters.head? = some '-'
      · obtain ⟨others, rfl⟩ := List.head?_eq_some_iff.1 hyphen
        rw [List.length_cons] at enough spared
        rw [List.cons_append, leadingHyphens] at hyphens
        rw [leadingHyphens]
        have kept := leadingHyphens_suffix flags
          (progress.add (.single '-'.toNat) 0) fuel (skipSpace flags (others ++ closing))
        rw [hyphens] at kept
        obtain ⟨inner, passed⟩ := exists_append_closing kept
        have inside := skipSpace_inside passed
        have shorter := (suffix_of_skipSpace_eq inside).length_le
        rw [passed] at hyphens
        rw [inside]
        exact hypothesis (by omega) (by omega) hyphens
      · rw [leadingHyphens_of_head?_ne
          (mt (head?_append_closing_eq_some_iff (by decide)).1 hyphen), Prod.mk.injEq] at hyphens
        rw [leadingHyphens_of_head?_ne hyphen, hyphens.1, List.append_cancel_right hyphens.2]

theorem caret_inside
    {negated : Bool}
    (opened : caret flags (characters ++ closing) = (negated, rest ++ closing)) :
    caret flags characters = (negated, rest) := by
  unfold caret at opened
  split at opened
  · rename_i others passed
    rw [Prod.mk.injEq] at opened
    obtain ⟨inner, rfl, inside⟩ :=
      exists_of_skipSpace_eq_cons passed (suffix_of_skipSpace_eq opened.2)
    rw [caret, inside, ← opened.1]
    simp [skipSpace_inside opened.2]
  · rename_i plain
    rw [Prod.mk.injEq] at opened
    rw [opened.2] at plain
    rw [caret, skipSpace_inside opened.2, ← opened.1]
    split
    · exact (plain _ rfl).elim
    · rfl

theorem leadingBracket_inside
    {negated sign : Bool}
    {progress read : Progress}
    (bracket : leadingBracket flags negated progress (characters ++ closing) =
      (sign, read, rest ++ closing)) :
    leadingBracket flags negated progress characters = (sign, read, rest) := by
  by_cases front : characters.head? = some ']'
  · obtain ⟨others, rfl⟩ := List.head?_eq_some_iff.1 front
    rw [List.cons_append, leadingBracket_bracket] at bracket
    rw [leadingBracket_bracket]
    split at bracket
    · rename_i first
      simp only [Prod.mk.injEq] at bracket
      rw [if_pos first, bracket.1, bracket.2.1, skipSpace_inside bracket.2.2]
    · rename_i later
      simp only [Prod.mk.injEq, ← List.cons_append] at bracket
      rw [if_neg later, bracket.1, bracket.2.1, List.append_cancel_right bracket.2.2]
  · rw [leadingBracket_of_head?_ne
      (mt (head?_append_closing_eq_some_iff (by decide)).1 front)] at bracket
    simp only [Prod.mk.injEq] at bracket
    rw [leadingBracket_of_head?_ne front, bracket.1, bracket.2.1,
      List.append_cancel_right bracket.2.2]

theorem front_inside
    {negated : Bool}
    {progress : Progress}
    (read : front flags (characters ++ closing) = (negated, progress, rest ++ closing)) :
    front flags characters = (negated, progress, rest) := by
  rw [front_eq] at read ⊢
  dsimp only at read
  rcases opened : caret flags (characters ++ closing) with ⟨sign, afterCaret⟩
  rw [opened] at read
  rcases hyphens : leadingHyphens flags {} (afterCaret.length + 1) afterCaret with
    ⟨leading, afterHyphens⟩
  rw [hyphens] at read
  have keptHyphens := leadingBracket_suffix flags sign leading afterHyphens
  rw [read] at keptHyphens
  have keptCaret := leadingHyphens_suffix flags {} (afterCaret.length + 1) afterCaret
  rw [hyphens] at keptCaret
  obtain ⟨innerCaret, rfl⟩ := exists_append_closing (keptHyphens.trans keptCaret)
  obtain ⟨innerHyphens, rfl⟩ := exists_append_closing keptHyphens
  rw [caret_inside opened]
  dsimp only
  rw [leadingHyphens_inside (by rw [List.length_append]; omega) (Nat.lt_succ_self _) hyphens]
  exact leadingBracket_inside read

/-- Before its closing bracket a class is inside the pattern. -/
theorem exists_of_items?
    {negated : Bool}
    {progress : Progress}
    {fuel : Nat}
    {operand : Operand}
    (read : items? flags negated progress fuel characters = some (operand, rest ++ closing)) :
    ∃ inner, inner ≠ [] ∧ characters = inner ++ closing := by
  obtain ⟨before, rfl⟩ := items?_suffix read
  exact ⟨before ++ ']' :: rest, by simp, by simp⟩

/-- A class that leaves the closing text when it is read with some fuel is read the same
without it, with any fuel that the pattern needs. -/
def ItemsInside (fuel : Nat) : Prop :=
  ∀ ⦃flags : Flags⦄ ⦃negated : Bool⦄ ⦃progress : Progress⦄ ⦃operand : Operand⦄
    ⦃characters rest : List Char⦄ ⦃spare : Nat⦄,
    characters.length < spare →
      items? flags negated progress fuel (characters ++ closing) =
        some (operand, rest ++ closing) →
      items? flags negated progress spare characters = some (operand, rest)

variable
  {negated : Bool}
  {progress : Progress}
  {fuel spare : Nat}
  {operand : Operand}

namespace ItemsInside

variable
  (hypothesis : ItemsInside fuel)
  (spared : characters.length < spare + 1)

include hypothesis spared

/-- A named class, or a class within. -/
theorem bracketed
    (passed : skipSpace flags (characters ++ closing) = '[' :: others)
    (read : items? flags negated progress (fuel + 1) (characters ++ closing) =
      some (operand, rest ++ closing)) :
    items? flags negated progress (spare + 1) characters = some (operand, rest) := by
  simp only [items?, passed] at read
  split at read
  · rename_i members after named
    obtain ⟨below, -, rfl⟩ := exists_of_items? read
    obtain ⟨inner, rfl, inside⟩ := exists_of_skipSpace_eq_cons passed (Class.named?_suffix named)
    rw [Class.named?_append_closing] at named
    simp only [Option.map_eq_some_iff, Prod.mk.injEq] at named
    obtain ⟨⟨_, _⟩, named, rfl, same⟩ := named
    obtain rfl := List.append_cancel_right same
    have enough := length_lt_of_skipSpace_eq_cons inside
    have shorter := (Class.named?_suffix named).length_le
    dsimp only at read shorter
    rw [items?, inside]
    simpa only [named] using hypothesis (by omega) read
  · simp at read
  · rename_i unnamed
    rcases fronted : front flags others with ⟨innerNegated, innerProgress, after⟩
    rw [fronted] at read
    dsimp only at read
    split at read
    · rename_i inner below nested
      obtain ⟨below, -, rfl⟩ := exists_of_items? read
      obtain ⟨after, -, rfl⟩ := exists_of_items? nested
      have kept := front_suffix flags others
      rw [fronted] at kept
      obtain ⟨others, rfl, inside⟩ := exists_of_skipSpace_eq_cons passed kept
      rw [Class.named?_append_closing, Option.map_eq_none_iff] at unnamed
      have enough := length_lt_of_skipSpace_eq_cons inside
      have frontedInside := front_inside fronted
      have shorter := (front_suffix flags others).length_le
      rw [frontedInside] at shorter
      dsimp only at shorter
      have nestedInside := hypothesis (by omega : after.length < spare) nested
      have shortest := (items?_suffix nestedInside).length_le
      rw [List.length_cons] at shortest
      rw [items?, inside]
      simp only [unnamed, frontedInside, nestedInside]
      exact hypothesis (by omega) read
    · simp at read

/-- What goes on after a mark of two characters. -/
theorem exists_of_mark
    (passed : skipSpace flags (characters ++ closing) = first :: first :: others)
    (read : items? flags negated progress fuel others = some (operand, rest ++ closing)) :
    ∃ after, skipSpace flags characters = first :: first :: after ∧
      items? flags negated progress spare after = some (operand, rest) := by
  obtain ⟨after, -, rfl⟩ := exists_of_items? read
  have inside : skipSpace flags characters = first :: first :: after := skipSpace_inside passed
  have enough := length_lt_of_skipSpace_eq_cons inside
  rw [List.length_cons] at enough
  exact ⟨after, inside, hypothesis (by omega) read⟩

end ItemsInside

/-- A class that leaves the closing text is read the same without it. -/
theorem items?_inside
    (spared : characters.length < spare)
    (read : items? flags negated progress fuel (characters ++ closing) =
      some (operand, rest ++ closing)) :
    items? flags negated progress spare characters = some (operand, rest) := by
  suffices inside : ∀ fuel, ItemsInside fuel from inside fuel spared read
  clear spared read
  intro fuel
  induction fuel with
  | zero => exact fun _ _ _ _ _ _ _ _ read => by simp [items?] at read
  | succ fuel hypothesis =>
      intro flags negated progress operand characters rest spare spared whole
      obtain ⟨spare, rfl⟩ := Nat.exists_eq_add_one_of_ne_zero (by omega : spare ≠ 0)
      have read := whole
      rw [items?] at read
      split at read
      · simp at read
      · rename_i passed
        exact hypothesis.bracketed spared passed whole
      · rename_i passed
        dsimp only at read
        split at read
        · rename_i members found
          simp only [Option.some.injEq, Prod.mk.injEq] at read
          obtain ⟨rfl, rfl⟩ := read
          rw [items?, skipSpace_cons_inside passed]
          simp [found]
        · simp at read
      · rename_i passed
        obtain ⟨after, inside, read⟩ := hypothesis.exists_of_mark spared passed read
        rw [items?, inside]
        exact read
      · rename_i passed
        obtain ⟨after, inside, read⟩ := hypothesis.exists_of_mark spared passed read
        rw [items?, inside]
        exact read
      · rename_i passed
        obtain ⟨after, inside, read⟩ := hypothesis.exists_of_mark spared passed read
        rw [items?, inside]
        exact read
      · -- A range; none of the other cases applies without the closing text either.
        rename_i nonempty opening bracket intersection difference symmetric
        split at read
        · rename_i members after ranged
          obtain ⟨below, more, rfl⟩ := exists_of_items? read
          obtain ⟨first, others, passed, shorter⟩ := exists_of_range? ranged
          have kept := shorter.trans (List.suffix_cons first others)
          rw [← passed] at kept
          obtain ⟨inner, passed⟩ := exists_append_closing kept
          rw [passed] at ranged opening bracket intersection difference symmetric
          have inside := skipSpace_inside passed
          have rangedInside := range?_inside more ranged
          obtain ⟨first, others, rfl, shorter⟩ := exists_of_range? rangedInside
          have enough := length_lt_of_skipSpace_eq_cons inside
          have opening := ne_cons_inside opening
          have bracket := ne_cons_inside bracket
          have intersection := ne_cons_cons_inside intersection
          have difference := ne_cons_cons_inside difference
          have symmetric := ne_cons_cons_inside symmetric
          have short := shorter.length_le
          simp only [items?, inside, rangedInside]
          exact hypothesis (by omega) read
        · simp at read

theorem read?_inside
    (read : read? flags (characters ++ closing) = some (operand, rest ++ closing)) :
    read? flags characters = some (operand, rest) := by
  rcases fronted : front flags (characters ++ closing) with ⟨negated, progress, after⟩
  rw [read?, fronted] at read
  dsimp only at read
  obtain ⟨inner, -, rfl⟩ := exists_of_items? read
  rw [read?, front_inside fronted]
  exact items?_inside (Nat.lt_succ_self _) read

end Bracket

/-! ## Groups -/

theorem groupName?_inside
    {name : List Char}
    (read : groupName? (characters ++ closing) = some (name, rest ++ closing)) :
    groupName? characters = some (name, rest) := by
  rw [groupName?] at read ⊢
  rcases dropWhile_ne_append_closing (by decide : '>' ∉ closing) characters with
    ⟨below, found, same, taken⟩ | ⟨missing, same⟩
  · rw [same, taken] at read
    rw [found]
    split at read
    · rename_i letters ended
      cases ended
      rw [letters]
      dsimp only
      split at read
      · rename_i valid
        simp only [Option.some.injEq, Prod.mk.injEq] at read
        rw [if_pos valid, ← letters, read.1, List.append_cancel_right read.2]
      · simp at read
    · simp at read
  · rw [same] at read
    split at read <;> simp_all

/-- The flags of a group are inside the pattern if the character that ends them is. -/
theorem drop_takeWhile_inside
    {test : Char → Bool}
    (stops : test ')' = false)
    (ended : (characters ++ closing).drop ((characters ++ closing).takeWhile test).length =
      first :: (rest ++ closing)) :
    (characters ++ closing).takeWhile test = characters.takeWhile test ∧
      characters.drop (characters.takeWhile test).length = first :: rest := by
  have taken : (characters ++ closing).takeWhile test = characters.takeWhile test := by
    rw [List.takeWhile_append]
    split
    · rename_i all
      rw [(List.takeWhile_prefix test).eq_of_length all]
      simp [closing, stops]
    · rfl
  have short : (characters.takeWhile test).length ≤ characters.length :=
    (List.takeWhile_prefix test).length_le
  rw [taken, List.drop_append_of_le_length short, ← List.cons_append] at ended
  exact ⟨taken, List.append_cancel_right ended⟩

theorem flagged?_inside
    {opening : Opening}
    (read : flagged? flags (characters ++ closing) = some (opening, rest ++ closing)) :
    flagged? flags characters = some (opening, rest) := by
  rw [flagged?] at read
  split at read
  · rename_i valid
    split at read
    · rename_i ended
      simp only [Option.some.injEq, Prod.mk.injEq] at read
      obtain ⟨rfl, rfl⟩ := read
      obtain ⟨taken, inside⟩ := drop_takeWhile_inside (by decide) ended
      rw [taken] at valid
      simp [flagged?, inside, valid, taken]
    · rename_i ended
      split at read
      · simp at read
      · rename_i nonempty
        simp only [Option.some.injEq, Prod.mk.injEq] at read
        obtain ⟨rfl, rfl⟩ := read
        obtain ⟨taken, inside⟩ := drop_takeWhile_inside (by decide) ended
        rw [taken] at valid nonempty
        simp [flagged?, inside, valid, taken, nonempty]
    · simp at read
  · simp at read

theorem opening?_inside
    {opening : Opening}
    (read : opening? flags (characters ++ closing) = some (opening, rest ++ closing)) :
    opening? flags characters = some (opening, rest) := by
  by_cases question : (skipSpace flags (characters ++ closing)).head? = some '?'
  · have kept := opening?_suffix read
    rw [opening?] at read
    split at read
    · simp at read
    · simp at read
    · simp at read
    · simp at read
    · rename_i others passed
      simp only [Option.map_eq_some_iff, Prod.mk.injEq] at read
      obtain ⟨⟨name, _⟩, named, rfl, rfl⟩ := read
      obtain ⟨inner, rfl⟩ := exists_append_closing (groupName?_suffix named)
      have inside : skipSpace flags characters = '?' :: 'P' :: '<' :: inner :=
        skipSpace_inside passed
      rw [opening?, inside]
      simp [groupName?_inside named]
    · rename_i others notBehind notUnequal passed
      simp only [Option.map_eq_some_iff, Prod.mk.injEq] at read
      obtain ⟨⟨name, _⟩, named, rfl, rfl⟩ := read
      obtain ⟨inner, rfl⟩ := exists_append_closing (groupName?_suffix named)
      have inside : skipSpace flags characters = '?' :: '<' :: inner := skipSpace_inside passed
      have notBehind := ne_cons_inside notBehind
      have notUnequal := ne_cons_inside notUnequal
      simp [opening?, inside, groupName?_inside named]
    · rename_i others ahead notAhead behind notBehind named plain passed
      have flagged : flagged? flags others = some (opening, rest ++ closing) := read
      obtain ⟨inner, rfl, inside⟩ := exists_of_skipSpace_eq_cons passed (flagged?_suffix flagged)
      have ahead := ne_cons_inside ahead
      have notAhead := ne_cons_inside notAhead
      have behind := ne_cons_cons_inside behind
      have notBehind := ne_cons_cons_inside notBehind
      have named := ne_cons_cons_inside named
      have plain := ne_cons_inside plain
      simp only [opening?, inside]
      exact flagged?_inside flagged
    · rename_i unmarked
      obtain ⟨others, same⟩ := List.head?_eq_some_iff.1 question
      exact (unmarked _ same).elim
  · rw [opening?_of_head?_ne question, Option.some.injEq, Prod.mk.injEq] at read
    have inside := skipSpace_inside read.2
    rw [read.2, head?_append_closing_eq_some_iff (by decide), ← inside] at question
    rw [opening?_of_head?_ne question, read.1, inside]

/-! ## Repetitions -/

theorem countDigits_inside
    {digits : List Char}
    {fuel spare : Nat}
    (enough : characters.length < fuel)
    (spared : characters.length < spare)
    (read : countDigits flags fuel (characters ++ closing) = (digits, rest ++ closing)) :
    countDigits flags spare characters = (digits, rest) := by
  induction fuel generalizing spare characters digits with
  | zero => omega
  | succ fuel hypothesis =>
      obtain ⟨spare, rfl⟩ := Nat.exists_eq_add_one_of_ne_zero (by omega : spare ≠ 0)
      cases characters with
      | nil =>
          rw [List.nil_append, countDigits_of_head?_isDigit (by decide), Prod.mk.injEq] at read
          have empty : rest = [] := by simpa using read.2
          rw [countDigits_of_head?_isDigit rfl, ← read.1, empty]
      | cons first others =>
          rw [List.length_cons] at enough spared
          by_cases digit : first.isDigit
          · have kept := countDigits_suffix flags fuel (skipSpace flags (others ++ closing))
            rw [List.cons_append, countDigits_cons digit, Prod.mk.injEq] at read
            rw [read.2] at kept
            obtain ⟨inner, passed⟩ := exists_append_closing kept
            have inside := skipSpace_inside passed
            have shorter := (suffix_of_skipSpace_eq inside).length_le
            rw [passed] at read
            rw [countDigits_cons digit, inside]
            have again := hypothesis (by omega : inner.length < fuel)
              (by omega : inner.length < spare) (Prod.ext rfl read.2)
            rw [again, ← read.1]
          · rw [countDigits_of_head?_isDigit (by simp [digit]), Prod.mk.injEq] at read
            rw [countDigits_of_head?_isDigit (by simp [digit]), read.1,
              List.append_cancel_right read.2]

theorem count?_inside
    {count : Option Nat}
    (read : count? flags (characters ++ closing) = some (count, rest ++ closing)) :
    count? flags characters = some (count, rest) := by
  rw [count?_eq_map, dropWhile_append_closing (by decide)] at read
  rcases digitsRead : countDigits flags ((characters ++ closing).length + 1)
      (characters.dropWhile Text.isBlank ++ closing) with ⟨digits, after⟩
  rw [digitsRead] at read
  simp only [Option.map_eq_some_iff, Prod.mk.injEq] at read
  obtain ⟨_, counted, rfl, same⟩ := read
  have kept := List.dropWhile_suffix Text.isBlank (l := after)
  rw [same] at kept
  obtain ⟨inner, rfl⟩ := exists_append_closing kept
  rw [dropWhile_append_closing (by decide)] at same
  have shorter := (List.dropWhile_suffix Text.isBlank (l := characters)).length_le
  have inside :
      countDigits flags (characters.length + 1) (characters.dropWhile Text.isBlank) =
        (digits, inner) :=
    countDigits_inside (by rw [List.length_append]; omega) (by omega) digitsRead
  rw [count?_eq_map, inside]
  simp [counted, List.append_cancel_right same]

theorem counts?_inside
    {least : Nat}
    {most : Option Nat}
    (read : counts? flags (characters ++ closing) = some (least, most, rest ++ closing)) :
    counts? flags characters = some (least, most, rest) := by
  have skipped {characters rest : List Char} {count : Option Nat}
      (read : count? flags (skipSpace flags (characters ++ closing)) =
        some (count, rest ++ closing)) :
      count? flags (skipSpace flags characters) = some (count, rest) := by
    obtain ⟨inner, passed⟩ := exists_append_closing (count?_suffix read)
    rw [passed] at read
    rw [skipSpace_inside passed]
    exact count?_inside read
  have ended {characters rest : List Char} {first : Char}
      (passed : skipSpace flags characters = first :: (rest ++ closing)) :
      ∃ inner, characters = inner ++ closing ∧ skipSpace flags inner = first :: rest := by
    obtain ⟨inner, rfl⟩ := exists_append_closing (suffix_of_skipSpace_eq_cons passed)
    exact ⟨inner, rfl, skipSpace_cons_inside passed⟩
  rw [counts?, Option.bind_eq_bind, Option.bind_eq_some_iff] at read
  obtain ⟨⟨lower, between⟩, lowerRead, read⟩ := read
  dsimp only at read
  split at read
  · rename_i others passed
    simp only [Option.bind_eq_bind, Option.bind_eq_some_iff] at read
    obtain ⟨least, rfl, read⟩ := read
    split at read
    · rename_i closed
      cases read
      obtain ⟨others, rfl, closedInside⟩ := ended closed
      obtain ⟨between, rfl, inside⟩ := ended passed
      simp [counts?, skipped lowerRead, inside, closedInside]
    · simp at read
    · rename_i brace more
      simp only [Option.bind_eq_some_iff] at read
      obtain ⟨⟨upper, beyond⟩, upperRead, most, rfl, read⟩ := read
      dsimp only at read
      split at read
      · rename_i closed
        split at read
        · rename_i ordered
          cases read
          obtain ⟨beyond, rfl, closedInside⟩ := ended closed
          have kept := count?_suffix upperRead
          obtain ⟨others, rfl⟩ := exists_append_closing (kept.trans (skipSpace_suffix flags others))
          obtain ⟨past, pastRead⟩ := exists_append_closing kept
          obtain ⟨between, rfl, inside⟩ := ended passed
          have upperInside := skipped upperRead
          rw [pastRead] at brace
          rw [skipSpace_inside pastRead] at upperInside
          simp only [counts?, skipped lowerRead, inside, skipSpace_inside pastRead,
            Option.bind_eq_bind, Option.bind_some]
          split
          · exact (brace _ rfl).elim
          · have nothing : count? flags [] = some (none, []) := rfl
            rw [nothing] at upperInside
            cases upperInside
          · simp [upperInside, closedInside, ordered]
        · simp at read
      · simp at read
  · rename_i closed
    simp only [Option.bind_eq_bind, Option.bind_eq_some_iff, Option.some.injEq,
      Prod.mk.injEq] at read
    obtain ⟨least, rfl, rfl, rfl, rfl⟩ := read
    obtain ⟨between, rfl, inside⟩ := ended closed
    simp [counts?, skipped lowerRead, inside]
  · simp at read

theorem dropLazy_append_closing (characters : List Char) :
    dropLazy (characters ++ closing) = dropLazy characters ++ closing := by
  cases characters with
  | nil => rfl
  | cons first others =>
      by_cases mark : first = '?'
      · subst mark
        rfl
      · simp [dropLazy, mark]

/-- No counts can be read from an open brace. -/
theorem counts?_openBrace (blank : skipSpace flags characters = []) :
    counts? flags (characters ++ closing) = none := by
  have uncounted : count? flags closing = some (none, closing) := rfl
  have nothing : count? flags [] = some (none, []) := rfl
  have solid : skipSpace flags closing = closing :=
    skipSpace_of_not_isBlank (by decide) (by decide)
  have empty : skipSpace flags [] = [] := List.suffix_nil.1 (skipSpace_suffix flags [])
  rcases skipSpace_append_closing flags characters with same | ⟨none, _⟩
  · rw [blank, List.nil_append] at same
    simp only [counts?, same, uncounted, Option.bind_eq_bind, Option.bind_some, solid]
    rfl
  · simp only [counts?, none, nothing, Option.bind_eq_bind, Option.bind_some, empty]

/-! ## Pieces and branches -/

theorem primitive?_inside
    {expr : Expr}
    (read : primitive? flags (first :: (others ++ closing)) = some (expr, rest ++ closing)) :
    primitive? flags (first :: others) = some (expr, rest) ∨ IsOpenBrace flags rest := by
  by_cases backslash : first = '\\'
  · subst backslash
    rw [primitive?_backslash, Option.bind_eq_some_iff] at read
    obtain ⟨⟨atom, _⟩, escaped, read⟩ := read
    simp only [Option.map_eq_some_iff, Prod.mk.injEq] at read
    obtain ⟨_, stands, rfl, rfl⟩ := read
    cases others with
    | nil => exact absurd (escape?_suffix escaped) not_suffix_anchor
    | cons letter others =>
        refine (escape?_inside escaped).imp (fun inside => ?_) And.right
        rw [primitive?_backslash, inside]
        simp [stands]
  · rw [primitive?_eq_map backslash, Option.map_eq_some_iff] at read
    obtain ⟨_, stands, same⟩ := read
    rw [Prod.mk.injEq] at same
    left
    rw [primitive?_eq_map backslash, stands, Option.map_some, same.1,
      List.append_cancel_right same.2]

section Branches

variable
  {names allNames : List (List Char)}
  {branches pieces : List Piece}
  {piece : Piece}

/-- No branch goes on with an open brace. -/
theorem branches?_openBrace
    {fuel : Nat}
    (unclosed : IsOpenBrace flags characters) :
    branches? flags names branches pieces fuel (characters ++ closing) = none := by
  obtain ⟨inner, rfl, blank⟩ := unclosed
  cases fuel with
  | zero => rfl
  | succ fuel =>
      have solid :
          skipSpace flags ('\x7b' :: (inner ++ closing)) = '\x7b' :: (inner ++ closing) :=
        skipSpace_of_not_isBlank (by decide) (by decide)
      rw [List.cons_append, branches?, solid]
      simp [counts?_openBrace blank]

/-- Branches that leave the closing text when they are read with some fuel are read the
same without it, with any fuel that the pattern needs. -/
def BranchesInside (fuel : Nat) : Prop :=
  ∀ ⦃flags : Flags⦄ ⦃names allNames : List (List Char)⦄ ⦃branches pieces : List Piece⦄
    ⦃piece : Piece⦄ ⦃characters rest : List Char⦄ ⦃spare : Nat⦄,
    characters.length < spare →
      branches? flags names branches pieces fuel (characters ++ closing) =
        some (piece, allNames, rest ++ closing) →
      branches? flags names branches pieces spare characters = some (piece, allNames, rest)

variable {fuel spare : Nat}

/-- The parenthesis that ends the branches may be the closing one. -/
theorem branches?_parenthesis_inside
    (passed : skipSpace flags (characters ++ closing) = ')' :: others)
    (read : branches? flags names branches pieces (fuel + 1) (characters ++ closing) =
      some (piece, allNames, rest ++ closing)) :
    branches? flags names branches pieces (spare + 1) characters =
      some (piece, allNames, rest) := by
  rw [branches?, passed] at read
  simp only [Option.some.injEq, Prod.mk.injEq] at read
  obtain ⟨rfl, rfl, same⟩ := read
  rw [same] at passed
  have inside := skipSpace_inside passed
  cases rest with
  | nil => rw [branches?, inside]
  | cons first rest =>
      rw [List.cons_append, List.cons.injEq] at same
      obtain ⟨rfl, -⟩ := same
      rw [branches?, inside]
      rfl

namespace BranchesInside

variable
  (hypothesis : BranchesInside fuel)
  (spared : characters.length < spare + 1)

include hypothesis spared

/-- Flags, or a group with branches of its own. -/
theorem group
    (passed : skipSpace flags (characters ++ closing) = '(' :: others)
    (read : branches? flags names branches pieces (fuel + 1) (characters ++ closing) =
      some (piece, allNames, rest ++ closing)) :
    branches? flags names branches pieces (spare + 1) characters =
      some (piece, allNames, rest) := by
  simp only [branches?, passed] at read
  split at read
  · simp at read
  · rename_i opened
    obtain ⟨after, rfl⟩ := exists_append_closing (branches?_suffix read)
    obtain ⟨inner, rfl, inside⟩ := exists_of_skipSpace_eq_cons passed (opening?_suffix opened)
    have openedInside := opening?_inside opened
    have enough := length_lt_of_skipSpace_eq_cons inside
    have shorter := (opening?_suffix openedInside).length_le
    simp only [branches?, inside, openedInside]
    exact hypothesis (by omega) read
  · rename_i captures name innerFlags after opened
    split at read
    · simp at read
    rename_i fresh
    split at read
    · rename_i innerPiece innerNames below nested
      obtain ⟨below, rfl⟩ := exists_append_closing (branches?_suffix read)
      obtain ⟨after, rfl⟩ := exists_append_closing <|
        (List.suffix_cons ')' _).trans (branches?_suffix nested)
      obtain ⟨inner, rfl, inside⟩ := exists_of_skipSpace_eq_cons passed (opening?_suffix opened)
      have openedInside := opening?_inside opened
      have enough := length_lt_of_skipSpace_eq_cons inside
      have shorter := (opening?_suffix openedInside).length_le
      have nestedInside :
          branches? innerFlags (name.toList ++ names) [] [] spare after =
            some (innerPiece, innerNames, ')' :: below) :=
        hypothesis (by omega) nested
      have shortest := (branches?_suffix nestedInside).length_le
      rw [List.length_cons] at shortest
      simp only [branches?, inside, openedInside, fresh, nestedInside]
      exact hypothesis (by omega) read
    · simp at read

/-- A bracketed class. -/
theorem bracketed
    (passed : skipSpace flags (characters ++ closing) = '[' :: others)
    (read : branches? flags names branches pieces (fuel + 1) (characters ++ closing) =
      some (piece, allNames, rest ++ closing)) :
    branches? flags names branches pieces (spare + 1) characters =
      some (piece, allNames, rest) := by
  simp only [branches?, passed] at read
  split at read
  · rename_i operand after bracketed
    obtain ⟨after, rfl⟩ := exists_append_closing (branches?_suffix read)
    obtain ⟨inner, rfl, inside⟩ := exists_of_skipSpace_eq_cons passed <|
      (List.suffix_cons ']' _).trans (Bracket.read?_suffix bracketed)
    have bracketedInside := Bracket.read?_inside bracketed
    have enough := length_lt_of_skipSpace_eq_cons inside
    have shorter := (Bracket.read?_suffix bracketedInside).length_le
    rw [List.length_cons] at shorter
    simp only [branches?, inside, bracketedInside]
    exact hypothesis (by omega) read
  · simp at read

/-- What goes on after the mark of a repetition. -/
theorem exists_of_mark
    (passed : skipSpace flags (characters ++ closing) = first :: others)
    (read : branches? flags names branches pieces fuel (dropLazy others) =
      some (piece, allNames, rest ++ closing)) :
    ∃ inner, skipSpace flags characters = first :: inner ∧
      branches? flags names branches pieces spare (dropLazy inner) =
        some (piece, allNames, rest) := by
  obtain ⟨inner, rfl, inside⟩ := exists_of_skipSpace_eq_cons passed <|
    (branches?_suffix read).trans (dropLazy_suffix others)
  rw [dropLazy_append_closing] at read
  have enough := length_lt_of_skipSpace_eq_cons inside
  have shorter := (dropLazy_suffix inner).length_le
  exact ⟨inner, inside, hypothesis (by omega) read⟩

/-- A repetition with counts. -/
theorem counted
    (passed : skipSpace flags (characters ++ closing) = '\x7b' :: others)
    (read : branches? flags names branches pieces (fuel + 1) (characters ++ closing) =
      some (piece, allNames, rest ++ closing)) :
    branches? flags names branches pieces (spare + 1) characters =
      some (piece, allNames, rest) := by
  simp only [branches?, passed] at read
  split at read
  · rename_i least most after counted
    split at read
    · rename_i pieces repeated
      have kept := (branches?_suffix read).trans (dropLazy_suffix _)
      obtain ⟨past, pastRead⟩ := exists_append_closing kept
      obtain ⟨after, rfl⟩ := exists_append_closing (kept.trans (skipSpace_suffix flags after))
      obtain ⟨inner, rfl, inside⟩ := exists_of_skipSpace_eq_cons passed (counts?_suffix counted)
      have countedInside := counts?_inside counted
      rw [pastRead, dropLazy_append_closing] at read
      have pastInside := skipSpace_inside pastRead
      have enough := length_lt_of_skipSpace_eq_cons inside
      have shorter := (dropLazy_suffix past).length_le
      have skipped := (suffix_of_skipSpace_eq pastInside).length_le
      have counts := (counts?_suffix countedInside).length_le
      simp only [branches?, inside, countedInside, repeated, pastInside]
      exact hypothesis (by omega) read
    · simp at read
  · simp at read

end BranchesInside

/-- Branches that leave the closing text are read the same without it. -/
theorem branches?_inside
    (spared : characters.length < spare)
    (read : branches? flags names branches pieces fuel (characters ++ closing) =
      some (piece, allNames, rest ++ closing)) :
    branches? flags names branches pieces spare characters = some (piece, allNames, rest) := by
  suffices inside : ∀ fuel, BranchesInside fuel from inside fuel spared read
  clear spared read
  intro fuel
  induction fuel with
  | zero => exact fun _ _ _ _ _ _ _ _ _ _ read => by simp [branches?] at read
  | succ fuel hypothesis =>
      intro flags names allNames branches pieces piece characters rest spare spared whole
      obtain ⟨spare, rfl⟩ := Nat.exists_eq_add_one_of_ne_zero (by omega : spare ≠ 0)
      have read := whole
      rw [branches?] at read
      split at read
      · simp [closing] at read
      · rename_i passed
        exact branches?_parenthesis_inside passed whole
      · rename_i others passed
        obtain ⟨inner, rfl, inside⟩ := exists_of_skipSpace_eq_cons passed (branches?_suffix read)
        have shorter := length_lt_of_skipSpace_eq_cons inside
        rw [branches?, inside]
        exact hypothesis (by omega) read
      · rename_i passed
        exact hypothesis.group spared passed whole
      · rename_i passed
        exact hypothesis.bracketed spared passed whole
      · rename_i others passed
        split at read
        · rename_i pieces repeated
          obtain ⟨inner, inside, read⟩ := hypothesis.exists_of_mark spared passed read
          simp only [branches?, inside, repeated]
          exact read
        · simp at read
      · rename_i others passed
        split at read
        · rename_i pieces repeated
          obtain ⟨inner, inside, read⟩ := hypothesis.exists_of_mark spared passed read
          simp only [branches?, inside, repeated]
          exact read
        · simp at read
      · rename_i others passed
        split at read
        · rename_i pieces repeated
          obtain ⟨inner, inside, read⟩ := hypothesis.exists_of_mark spared passed read
          simp only [branches?, inside, repeated]
          exact read
        · simp at read
      · rename_i passed
        exact hypothesis.counted spared passed whole
      · -- None of the other cases applies without the closing text either.
        rename_i nonempty closed choice opened bracket optional any many counted
        split at read
        · rename_i expr after primitive
          obtain ⟨after, rfl⟩ := exists_append_closing (branches?_suffix read)
          cases passed : skipSpace flags (characters ++ closing) with
          | nil => exact absurd passed nonempty
          | cons first others =>
              rw [passed] at primitive closed choice opened bracket optional any many counted
              obtain ⟨inner, rfl, inside⟩ :=
                exists_of_skipSpace_eq_cons passed (primitive?_suffix primitive)
              rcases primitive?_inside primitive with primitiveInside | unclosed
              · have enough := length_lt_of_skipSpace_eq_cons inside
                have shorter := (primitive?_suffix primitiveInside).length_le
                rw [← List.cons_append] at closed choice opened bracket optional any many counted
                have closed := ne_cons_inside closed
                have choice := ne_cons_inside choice
                have opened := ne_cons_inside opened
                have bracket := ne_cons_inside bracket
                have optional := ne_cons_inside optional
                have any := ne_cons_inside any
                have many := ne_cons_inside many
                have counted := ne_cons_inside counted
                simp only [branches?, inside, primitiveInside]
                exact hypothesis (by omega) read
              · rw [branches?_openBrace unclosed] at read
                simp at read
        · simp at read

end Branches
end Regex
end WorkloadPolicy
