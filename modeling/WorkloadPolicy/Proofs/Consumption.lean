import WorkloadPolicy.Regex.Reader

/-!
# What readers leave

Every reader of a part of a pattern leaves an end of the text it is given.  A
reader that begins with a character of its own leaves an end of what follows
that character, and a bracketed class leaves what follows its closing bracket.
-/

namespace WorkloadPolicy
namespace Regex

variable
  {flags : Flags}
  {characters rest after : List Char}
  {first : Char}

/-! ## Blanks and comments -/

theorem dropSpace_suffix (fuel : Nat) (characters : List Char) :
    dropSpace fuel characters <:+ characters := by
  induction fuel generalizing characters with
  | zero => exact List.suffix_rfl
  | succ fuel hypothesis =>
      have blanks := List.dropWhile_suffix Text.isBlank (l := characters)
      rw [dropSpace]
      split
      · rename_i rest comment
        rw [comment] at blanks
        exact (hypothesis _).trans <| (List.drop_suffix 1 _).trans <|
          (List.dropWhile_suffix _).trans <| (List.suffix_cons '#' rest).trans blanks
      · exact blanks

theorem skipSpace_suffix (flags : Flags) (characters : List Char) :
    skipSpace flags characters <:+ characters := by
  rw [skipSpace]
  split
  · exact dropSpace_suffix _ _
  · exact List.suffix_rfl

theorem suffix_of_skipSpace_eq (passed : skipSpace flags characters = rest) :
    rest <:+ characters :=
  passed ▸ skipSpace_suffix flags characters

/-- What follows the first character past blanks is an end of the text. -/
theorem suffix_of_skipSpace_eq_cons (passed : skipSpace flags characters = first :: rest) :
    rest <:+ characters :=
  (List.suffix_cons first rest).trans (suffix_of_skipSpace_eq passed)

theorem skipSpace_of_not_isBlank (solid : Text.isBlank first = false) (noComment : first ≠ '#') :
    skipSpace flags (first :: rest) = first :: rest := by
  rw [skipSpace]
  split
  · rw [dropSpace, List.dropWhile_cons_of_neg (by simp [solid])]
    simp [noComment]
  · rfl

/-! ## Escapes -/

theorem hexFixed?_suffix
    {value code count : Nat}
    (read : hexFixed? flags value count characters = some (code, rest)) :
    rest <:+ characters := by
  induction count generalizing value characters with
  | zero =>
      cases read
      exact List.suffix_rfl
  | succ count hypothesis =>
      cases characters with
      | nil => simp [hexFixed?] at read
      | cons digit others =>
          simp only [hexFixed?, Option.bind_eq_bind, Option.bind_eq_some_iff] at read
          obtain ⟨_, _, read⟩ := read
          exact (hypothesis read).trans <|
            (skipSpace_suffix flags others).trans (List.suffix_cons digit others)

theorem hexBraced?_suffix
    {value count fuel code : Nat}
    (read : hexBraced? flags value count fuel characters = some (code, rest)) :
    rest <:+ characters := by
  induction fuel generalizing value count characters with
  | zero => simp [hexBraced?] at read
  | succ fuel hypothesis =>
      rw [hexBraced?] at read
      split at read
      · simp at read
      · rename_i others passed
        split at read
        · simp at read
        · cases read
          exact suffix_of_skipSpace_eq_cons passed
      · rename_i digit others _ passed
        simp only [Option.bind_eq_bind, Option.bind_eq_some_iff] at read
        obtain ⟨_, _, read⟩ := read
        exact (hypothesis read).trans (suffix_of_skipSpace_eq_cons passed)

theorem hex?_suffix
    {width : Nat}
    {atom : Atom}
    (read : hex? flags width characters = some (atom, rest)) :
    rest <:+ characters := by
  rw [hex?] at read
  split at read
  · rename_i others passed
    simp only [Option.bind_eq_bind, Option.bind_eq_some_iff, Option.some.injEq,
      Prod.mk.injEq] at read
    obtain ⟨⟨_, between⟩, digits, _, _, _, rfl⟩ := read
    exact (skipSpace_suffix flags between).trans <|
      (hexBraced?_suffix digits).trans (suffix_of_skipSpace_eq_cons passed)
  · simp only [Option.bind_eq_bind, Option.bind_eq_some_iff, Option.some.injEq,
      Prod.mk.injEq] at read
    obtain ⟨_, digits, _, _, _, rfl⟩ := read
    exact (hexFixed?_suffix digits).trans (skipSpace_suffix flags characters)

theorem braced?_suffix
    {reversed name : List Char}
    {fuel : Nat}
    (read : braced? flags reversed fuel characters = some (name, rest)) :
    rest <:+ characters := by
  induction fuel generalizing reversed characters with
  | zero => simp [braced?] at read
  | succ fuel hypothesis =>
      rw [braced?] at read
      split at read
      · simp at read
      · rename_i others passed
        cases read
        exact suffix_of_skipSpace_eq_cons passed
      · rename_i character others _ passed
        exact (hypothesis read).trans (suffix_of_skipSpace_eq_cons passed)

/-- The name after the letter of a property escape. -/
def propertyName? (flags : Flags) (characters : List Char) : Option (List Char × List Char) :=
  match skipSpace flags characters with
  | '\x7b' :: rest => braced? flags [] (rest.length + 1) rest
  | '\\' :: _ => none
  | letter :: rest => some ([letter], skipSpace flags rest)
  | [] => none

/-- What a property escape stands for, by its name. -/
def propertyAtom? (flags : Flags) (negated : Bool) (name : List Char) : Option Atom :=
  if flags.unicode then do
    let (unequal, members) ← property? name
    let members ← Class.negate? flags (negated != unequal) (Class.fold flags members)
    some (.set members)
  else
    none

/-- The name alone decides what a property escape stands for. -/
theorem propertyEscape?_eq_bind (flags : Flags) (negated : Bool) (characters : List Char) :
    propertyEscape? flags negated characters =
      (propertyName? flags characters).bind fun read =>
        (propertyAtom? flags negated read.1).map (·, read.2) := by
  have named (name rest : List Char) :
      (if flags.unicode then do
          let (unequal, members) ← property? name
          let members ← Class.negate? flags (negated != unequal) (Class.fold flags members)
          some (Atom.set members, rest)
        else none) =
        (propertyAtom? flags negated name).map (·, rest) := by
    rw [propertyAtom?]
    split
    · cases property? name with
      | none => rfl
      | some found =>
          obtain ⟨unequal, members⟩ := found
          simp only [Option.bind_eq_bind, Option.bind_some]
          cases Class.negate? flags (negated != unequal) (Class.fold flags members) <;> rfl
    · rfl
  rw [propertyEscape?, propertyName?]
  generalize skipSpace flags characters = passed
  split
  · simp only [Option.bind_eq_bind, ← named]
  · rfl
  · rename_i letter others _ _
    simpa only [Option.bind_eq_bind, Option.bind_some] using
      named [letter] (skipSpace flags others)
  · rfl

theorem propertyName?_suffix
    {name : List Char}
    (read : propertyName? flags characters = some (name, rest)) :
    rest <:+ characters := by
  rw [propertyName?] at read
  split at read
  · rename_i others passed
    exact (braced?_suffix read).trans (suffix_of_skipSpace_eq_cons passed)
  · simp at read
  · rename_i letter others _ _ passed
    cases read
    exact (skipSpace_suffix flags others).trans (suffix_of_skipSpace_eq_cons passed)
  · simp at read

theorem propertyEscape?_suffix
    {negated : Bool}
    {atom : Atom}
    (read : propertyEscape? flags negated characters = some (atom, rest)) :
    rest <:+ characters := by
  rw [propertyEscape?_eq_bind, Option.bind_eq_some_iff] at read
  obtain ⟨⟨name, between⟩, named, read⟩ := read
  simp only [Option.map_eq_some_iff, Prod.mk.injEq] at read
  obtain ⟨_, _, _, rfl⟩ := read
  exact propertyName?_suffix named

theorem boundaryName?_suffix
    {reversed name : List Char}
    {fuel : Nat}
    (read : boundaryName? flags reversed fuel characters = some (name, rest)) :
    rest <:+ characters := by
  induction fuel generalizing reversed characters with
  | zero => simp [boundaryName?] at read
  | succ fuel hypothesis =>
      unfold boundaryName? at read
      split at read
      · cases read
        exact List.suffix_cons _ _
      · rename_i character others _
        split at read
        · exact (hypothesis read).trans <|
            (skipSpace_suffix flags others).trans (List.suffix_cons character others)
        · simp at read
      · simp at read

/-- The special boundary of a name in braces. -/
def boundaryAtom? (word : Unicode.CharSet) (name : String) : Option Atom :=
  if name = "start" then some (.look (.wordStart word))
  else if name = "end" then some (.look (.wordEnd word))
  else if name = "start-half" then some (.look (.wordStartHalf word))
  else if name = "end-half" then some (.look (.wordEndHalf word))
  else none

/-- A brace after the escape of a word boundary opens a name if a letter or a
hyphen follows. -/
theorem boundary?_brace (flags : Flags) (others : List Char) :
    boundary? flags ('\x7b' :: others) =
      match skipSpace flags others with
      | [] => none
      | first :: inner =>
          if first.isAlpha || first == '-' then
            (boundaryName? flags [] (inner.length + 2) (first :: inner)).bind fun read =>
              (boundaryAtom? (Class.word flags) (String.ofList read.1)).map (·, read.2)
          else
            some (.look (.wordBoundary (Class.word flags)), '\x7b' :: others) := by
  have special (word : Unicode.CharSet) (name : String) (rest : List Char) :
      (if name = "start" then some (Atom.look (.wordStart word), rest)
        else if name = "end" then some (.look (.wordEnd word), rest)
        else if name = "start-half" then some (.look (.wordStartHalf word), rest)
        else if name = "end-half" then some (.look (.wordEndHalf word), rest)
        else none) =
        (boundaryAtom? word name).map (·, rest) := by
    simp only [boundaryAtom?, apply_ite (Option.map _), Option.map_some, Option.map_none]
  cases passed : skipSpace flags others with
  | nil => simp only [boundary?, passed]
  | cons first inner => simp only [boundary?, passed, Option.bind_eq_bind, special]

theorem boundary?_eq_some (plain : first ≠ '\x7b') :
    boundary? flags (first :: rest) =
      some (.look (.wordBoundary (Class.word flags)), first :: rest) := by
  simp [boundary?, plain]

theorem boundary?_suffix
    {atom : Atom}
    (read : boundary? flags characters = some (atom, rest)) :
    rest <:+ characters := by
  cases characters with
  | nil =>
      cases read
      exact List.suffix_rfl
  | cons first others =>
      by_cases brace : first = '\x7b'
      · subst brace
        rw [boundary?_brace] at read
        split at read
        · simp at read
        · rename_i letter inner passed
          split at read
          · simp only [Option.bind_eq_some_iff, Option.map_eq_some_iff, Prod.mk.injEq] at read
            obtain ⟨_, named, _, _, _, rfl⟩ := read
            exact (boundaryName?_suffix named).trans <|
              (suffix_of_skipSpace_eq passed).trans (List.suffix_cons _ others)
          · cases read
            exact List.suffix_rfl
      · rw [boundary?_eq_some brace] at read
        cases read
        exact List.suffix_rfl

/-- What an escape of one letter stands for. -/
def letterAtom? (flags : Flags) (letter : Char) : Option Atom :=
  if isEscapable letter then some (.literal letter false)
  else
    match Class.perl? flags letter.toLower with
    | some members => (Class.negate? flags letter.isUpper members).map .set
    | none =>
        match control? letter with
        | some character => some (.literal character false)
        | none => (condition? flags letter).map .look

/-- The escapes that read on are those with digits, a property or a word boundary. -/
theorem escape?_eq_map
    (short : first ∉ ['x', 'u', 'U', 'p', 'P', 'b']) :
    escape? flags (first :: rest) = (letterAtom? flags first).map (·, rest) := by
  simp only [List.mem_cons, List.not_mem_nil, or_false, not_or] at short
  simp only [escape?, short, if_false]
  rw [letterAtom?]
  split
  · rfl
  cases Class.perl? flags first.toLower with
  | some members =>
      dsimp only
      rw [Option.map_map]
      rfl
  | none =>
      cases control? first with
      | some character => rfl
      | none =>
          dsimp only
          rw [Option.map_map]
          rfl

theorem escape?_suffix
    {atom : Atom}
    (read : escape? flags (first :: rest) = some (atom, after)) :
    after <:+ rest := by
  by_cases short : first ∉ ['x', 'u', 'U', 'p', 'P', 'b']
  · rw [escape?_eq_map short, Option.map_eq_some_iff] at read
    obtain ⟨_, _, read⟩ := read
    cases read
    exact List.suffix_rfl
  · simp only [List.mem_cons, List.not_mem_nil, or_false, Classical.not_not] at short
    rcases short with rfl | rfl | rfl | rfl | rfl | rfl
    · exact hex?_suffix read
    · exact hex?_suffix read
    · exact hex?_suffix read
    · exact propertyEscape?_suffix read
    · exact propertyEscape?_suffix read
    · exact boundary?_suffix read

/-! ## Classes -/

namespace Class

/-- A caret before the name of a class negates it. -/
def caret : List Char → Bool × List Char
  | '^' :: rest => (true, rest)
  | rest => (false, rest)

/-- The name of a class up to a colon with a closing bracket. -/
def closed?
    (flags : Flags)
    (negated : Bool)
    (characters : List Char) : Option (Option Unicode.CharSet × List Char) := do
  match characters.dropWhile (· != ':') with
  | ':' :: ']' :: after =>
      let members ← ascii.lookup (String.ofList (characters.takeWhile (· != ':')))
      some (negate? flags negated (fold flags members), after)
  | _ => none

theorem named?_colon (inner : List Char) :
    named? flags (':' :: inner) = closed? flags (caret inner).1 (caret inner).2 := rfl

theorem closed?_suffix
    {negated : Bool}
    {members : Option Unicode.CharSet}
    (read : closed? flags negated characters = some (members, rest)) :
    rest <:+ characters := by
  unfold closed? at read
  split at read
  · rename_i found
    have shorter := List.dropWhile_suffix (· != ':') (l := characters)
    rw [found] at shorter
    simp only [Option.bind_eq_bind, Option.bind_eq_some_iff, Option.some.injEq,
      Prod.mk.injEq] at read
    obtain ⟨_, _, _, rfl⟩ := read
    exact (List.suffix_cons ']' _).trans <| (List.suffix_cons ':' _).trans shorter
  · simp at read

theorem caret_suffix (characters : List Char) : (caret characters).2 <:+ characters := by
  unfold caret
  split
  · exact List.suffix_cons _ _
  · exact List.suffix_rfl

theorem exists_of_named?
    {members : Option Unicode.CharSet}
    (read : named? flags characters = some (members, rest)) :
    ∃ inner, characters = ':' :: inner := by
  unfold named? at read
  split at read
  · exact ⟨_, rfl⟩
  · simp at read

theorem named?_suffix
    {members : Option Unicode.CharSet}
    (read : named? flags characters = some (members, rest)) :
    rest <:+ characters := by
  obtain ⟨inner, rfl⟩ := exists_of_named? read
  rw [named?_colon] at read
  exact (closed?_suffix read).trans <|
    (caret_suffix inner).trans (List.suffix_cons ':' inner)

end Class

namespace Bracket

theorem item?_suffix
    {atom : Atom}
    (read : item? flags (first :: rest) = some (atom, after)) :
    after <:+ rest := by
  unfold item? at read
  split at read
  · rename_i found
    cases found
    cases rest with
    | nil => simp [escape?] at read
    | cons letter others => exact (escape?_suffix read).trans (List.suffix_cons letter others)
  · rename_i found
    cases found
    cases read
    exact List.suffix_rfl
  · simp at read

theorem exists_of_item?
    {atom : Atom}
    (read : item? flags characters = some (atom, rest)) :
    ∃ first others, characters = first :: others ∧ rest <:+ others := by
  cases characters with
  | nil => simp [item?] at read
  | cons first others => exact ⟨first, others, rfl, item?_suffix read⟩

/-- A range whose first end has been read, or its first end by itself. -/
def rangeFrom?
    (flags : Flags)
    (left : Atom)
    (characters : List Char) : Option (Unicode.CharSet × List Char) := do
  match skipSpace flags characters with
  | [] => none
  | '-' :: after =>
      if endsRange flags after then
        some (← atomSet? flags left, '-' :: after)
      else
        let (right, rest) ← item? flags (skipSpace flags after)
        some (← rangeSet? flags left right, rest)
  | rest => some (← atomSet? flags left, rest)

theorem range?_eq_bind (flags : Flags) (characters : List Char) :
    range? flags characters =
      (item? flags characters).bind fun read => rangeFrom? flags read.1 read.2 := rfl

theorem rangeFrom?_suffix
    {left : Atom}
    {members : Unicode.CharSet}
    (read : rangeFrom? flags left characters = some (members, rest)) :
    rest <:+ characters := by
  unfold rangeFrom? at read
  split at read
  · simp at read
  · rename_i after passed
    split at read
    · simp only [Option.bind_eq_bind, Option.bind_eq_some_iff, Option.some.injEq,
        Prod.mk.injEq] at read
      obtain ⟨_, _, _, rfl⟩ := read
      exact suffix_of_skipSpace_eq passed
    · simp only [Option.bind_eq_bind, Option.bind_eq_some_iff, Option.some.injEq,
        Prod.mk.injEq] at read
      obtain ⟨⟨right, _⟩, rightRead, _, _, _, rfl⟩ := read
      obtain ⟨letter, inner, split, shorter⟩ := exists_of_item? rightRead
      exact shorter.trans <| (suffix_of_skipSpace_eq_cons split).trans
        (suffix_of_skipSpace_eq_cons passed)
  · simp only [Option.bind_eq_bind, Option.bind_eq_some_iff, Option.some.injEq,
      Prod.mk.injEq] at read
    obtain ⟨_, _, _, rfl⟩ := read
    exact skipSpace_suffix flags characters

theorem exists_of_range?
    {members : Unicode.CharSet}
    (read : range? flags characters = some (members, rest)) :
    ∃ first others, characters = first :: others ∧ rest <:+ others := by
  rw [range?_eq_bind, Option.bind_eq_some_iff] at read
  obtain ⟨⟨left, between⟩, leftRead, read⟩ := read
  obtain ⟨first, others, rfl, shorter⟩ := exists_of_item? leftRead
  exact ⟨first, others, rfl, (rangeFrom?_suffix read).trans shorter⟩

theorem leadingHyphens_of_head?_ne
    (plain : characters.head? ≠ some '-')
    (progress : Progress)
    (fuel : Nat) :
    leadingHyphens flags progress fuel characters = (progress, characters) := by
  cases fuel with
  | zero => rfl
  | succ fuel =>
      unfold leadingHyphens
      split
      · exact absurd rfl plain
      · rfl

theorem leadingHyphens_suffix
    (flags : Flags)
    (progress : Progress)
    (fuel : Nat)
    (characters : List Char) :
    (leadingHyphens flags progress fuel characters).2 <:+ characters := by
  induction fuel generalizing progress characters with
  | zero => exact List.suffix_rfl
  | succ fuel hypothesis =>
      unfold leadingHyphens
      split
      · exact (hypothesis _ _).trans <| (skipSpace_suffix flags _).trans (List.suffix_cons _ _)
      · exact List.suffix_rfl

/-- The front of a class up to a caret that negates it. -/
def caret (flags : Flags) (characters : List Char) : Bool × List Char :=
  match skipSpace flags characters with
  | '^' :: rest => (true, skipSpace flags rest)
  | rest => (false, rest)

/-- A closing bracket is literal if nothing stands before it. -/
def leadingBracket
    (flags : Flags)
    (negated : Bool)
    (progress : Progress)
    (characters : List Char) : Bool × Progress × List Char :=
  if progress.items = 0 then
    match characters with
    | ']' :: rest => (negated, progress.add (.single ']'.toNat) 0, skipSpace flags rest)
    | rest => (negated, progress, rest)
  else
    (negated, progress, characters)

theorem front_eq (flags : Flags) (characters : List Char) :
    front flags characters =
      let opened := caret flags characters
      let hyphens := leadingHyphens flags {} (opened.2.length + 1) opened.2
      leadingBracket flags opened.1 hyphens.1 hyphens.2 := rfl

theorem caret_suffix (flags : Flags) (characters : List Char) :
    (caret flags characters).2 <:+ characters := by
  unfold caret
  split
  · rename_i rest passed
    exact (skipSpace_suffix flags rest).trans (suffix_of_skipSpace_eq_cons passed)
  · exact skipSpace_suffix flags characters

theorem leadingBracket_bracket (negated : Bool) (progress : Progress) (rest : List Char) :
    leadingBracket flags negated progress (']' :: rest) =
      if progress.items = 0 then
        (negated, progress.add (.single ']'.toNat) 0, skipSpace flags rest)
      else
        (negated, progress, ']' :: rest) := rfl

theorem leadingBracket_of_head?_ne
    (plain : characters.head? ≠ some ']')
    (negated : Bool)
    (progress : Progress) :
    leadingBracket flags negated progress characters = (negated, progress, characters) := by
  unfold leadingBracket
  split
  · split
    · exact absurd rfl plain
    · rfl
  · rfl

theorem leadingBracket_suffix
    (flags : Flags)
    (negated : Bool)
    (progress : Progress)
    (characters : List Char) :
    (leadingBracket flags negated progress characters).2.2 <:+ characters := by
  unfold leadingBracket
  split
  · split
    · exact (skipSpace_suffix flags _).trans (List.suffix_cons ']' _)
    · exact List.suffix_rfl
  · exact List.suffix_rfl

theorem front_suffix (flags : Flags) (characters : List Char) :
    (front flags characters).2.2 <:+ characters := by
  rw [front_eq]
  exact (leadingBracket_suffix flags _ _ _).trans <|
    (leadingHyphens_suffix flags _ _ _).trans (caret_suffix flags characters)

/-- A class leaves what follows its closing bracket. -/
theorem items?_suffix
    {negated : Bool}
    {progress : Progress}
    {fuel : Nat}
    {operand : Operand}
    (read : items? flags negated progress fuel characters = some (operand, rest)) :
    ']' :: rest <:+ characters := by
  induction fuel generalizing negated progress characters operand rest with
  | zero => simp [items?] at read
  | succ fuel hypothesis =>
      rw [items?] at read
      split at read
      · simp at read
      · rename_i inner passed
        have shorter := suffix_of_skipSpace_eq_cons passed
        split at read
        · rename_i named
          exact (hypothesis read).trans <| (Class.named?_suffix named).trans shorter
        · simp at read
        · dsimp only at read
          split at read
          · rename_i nested
            exact (hypothesis read).trans <| (List.suffix_cons ']' _).trans <|
              (hypothesis nested).trans <| (front_suffix flags inner).trans shorter
          · simp at read
      · rename_i passed
        dsimp only at read
        split at read
        · cases read
          exact suffix_of_skipSpace_eq passed
        · simp at read
      · rename_i passed
        exact (hypothesis read).trans <| (List.suffix_cons '&' _).trans
          (suffix_of_skipSpace_eq_cons passed)
      · rename_i passed
        exact (hypothesis read).trans <| (List.suffix_cons '-' _).trans
          (suffix_of_skipSpace_eq_cons passed)
      · rename_i passed
        exact (hypothesis read).trans <| (List.suffix_cons '~' _).trans
          (suffix_of_skipSpace_eq_cons passed)
      · split at read
        · rename_i ranged
          obtain ⟨first, others, passed, shorter⟩ := exists_of_range? ranged
          exact (hypothesis read).trans <| shorter.trans (suffix_of_skipSpace_eq_cons passed)
        · simp at read

theorem read?_suffix
    {operand : Operand}
    (read : read? flags characters = some (operand, rest)) :
    ']' :: rest <:+ characters :=
  (items?_suffix read).trans (front_suffix flags characters)

end Bracket

/-! ## Groups -/

theorem groupName?_suffix
    {name : List Char}
    (read : groupName? characters = some (name, rest)) :
    rest <:+ characters := by
  rw [groupName?] at read
  split at read
  · rename_i _ found
    have shorter := List.dropWhile_suffix (· != '>') (l := characters)
    rw [found] at shorter
    split at read
    · cases read
      exact (List.suffix_cons _ _).trans shorter
    · simp at read
  · simp at read

/-- The flags of a group or of the rest of the group around. -/
def flagged? (flags : Flags) (characters : List Char) : Option (Opening × List Char) :=
  let list := characters.takeWhile fun character => character != ':' && character != ')'
  if Flags.isList list then
    match characters.drop list.length with
    | ':' :: rest => some (.group false none (flags.apply list), rest)
    | ')' :: rest => if list.isEmpty then none else some (.flags (flags.apply list), rest)
    | _ => none
  else
    none

theorem flagged?_suffix
    {opening : Opening}
    (read : flagged? flags characters = some (opening, rest)) :
    rest <:+ characters := by
  have list := List.drop_suffix
    (characters.takeWhile fun character => character != ':' && character != ')').length characters
  rw [flagged?] at read
  split at read
  · split at read
    · rename_i found
      rw [found] at list
      cases read
      exact (List.suffix_cons _ _).trans list
    · rename_i found
      rw [found] at list
      split at read
      · simp at read
      · cases read
        exact (List.suffix_cons _ _).trans list
    · simp at read
  · simp at read

/-- A group without a question mark captures. -/
theorem opening?_of_head?_ne (plain : (skipSpace flags characters).head? ≠ some '?') :
    opening? flags characters = some (.group true none flags, skipSpace flags characters) := by
  rw [opening?]
  split
  all_goals simp_all

theorem opening?_suffix
    {opening : Opening}
    (read : opening? flags characters = some (opening, rest)) :
    rest <:+ characters := by
  rw [opening?] at read
  split at read
  · simp at read
  · simp at read
  · simp at read
  · simp at read
  · rename_i passed
    simp only [Option.map_eq_some_iff, Prod.mk.injEq] at read
    obtain ⟨_, named, _, rfl⟩ := read
    exact (groupName?_suffix named).trans <| (List.suffix_cons '<' _).trans <|
      (List.suffix_cons 'P' _).trans (suffix_of_skipSpace_eq_cons passed)
  · rename_i passed
    simp only [Option.map_eq_some_iff, Prod.mk.injEq] at read
    obtain ⟨_, named, _, rfl⟩ := read
    exact (groupName?_suffix named).trans <| (List.suffix_cons '<' _).trans
      (suffix_of_skipSpace_eq_cons passed)
  · rename_i passed
    exact (flagged?_suffix read).trans (suffix_of_skipSpace_eq_cons passed)
  · cases read
    exact skipSpace_suffix flags characters

/-! ## Repetitions -/

theorem countDigits_cons (digit : first.isDigit) (fuel : Nat) :
    countDigits flags (fuel + 1) (first :: rest) =
      let others := countDigits flags fuel (skipSpace flags rest)
      (first :: others.1, others.2) := by
  rw [countDigits, if_pos digit]

theorem countDigits_of_head?_isDigit
    (none : characters.head?.any Char.isDigit = false)
    (fuel : Nat) :
    countDigits flags fuel characters = ([], characters) := by
  cases fuel with
  | zero => rfl
  | succ fuel =>
      cases characters with
      | nil => rfl
      | cons first rest =>
          rw [countDigits, if_neg]
          simpa using none

theorem countDigits_suffix (flags : Flags) (fuel : Nat) (characters : List Char) :
    (countDigits flags fuel characters).2 <:+ characters := by
  induction fuel generalizing characters with
  | zero => exact List.suffix_rfl
  | succ fuel hypothesis =>
      unfold countDigits
      split
      · exact List.suffix_rfl
      · rename_i digit others same
        cases same
        split
        · exact (hypothesis _).trans <|
            (skipSpace_suffix flags others).trans (List.suffix_cons digit others)
        · exact List.suffix_rfl
      · exact List.suffix_rfl

/-- The count that digits stand for, if there are any and it is not too great. -/
def countOf? (digits : List Char) : Option (Option Nat) :=
  let value := digits.foldl (fun value digit => 10 * value + (digit.toNat - 48)) 0
  if digits.isEmpty then some none
  else if value < 1 <<< 32 then some (some value)
  else none

theorem count?_eq_map (flags : Flags) (characters : List Char) :
    count? flags characters =
      let read := countDigits flags (characters.length + 1) (characters.dropWhile Text.isBlank)
      (countOf? read.1).map (·, read.2.dropWhile Text.isBlank) := by
  simp only [count?, countOf?, apply_ite (Option.map _), Option.map_some, Option.map_none]

theorem count?_suffix
    {count : Option Nat}
    (read : count? flags characters = some (count, rest)) :
    rest <:+ characters := by
  rw [count?_eq_map] at read
  simp only [Option.map_eq_some_iff, Prod.mk.injEq] at read
  obtain ⟨_, _, _, rfl⟩ := read
  exact (List.dropWhile_suffix Text.isBlank).trans <|
    (countDigits_suffix flags _ _).trans (List.dropWhile_suffix Text.isBlank)

theorem counts?_suffix
    {least : Nat}
    {most : Option Nat}
    (read : counts? flags characters = some (least, most, rest)) :
    rest <:+ characters := by
  rw [counts?, Option.bind_eq_bind, Option.bind_eq_some_iff] at read
  obtain ⟨⟨lower, between⟩, lowerRead, read⟩ := read
  refine List.IsSuffix.trans ?_ ((count?_suffix lowerRead).trans (skipSpace_suffix flags _))
  dsimp only at read
  split at read
  · rename_i others passed
    refine List.IsSuffix.trans ?_ (suffix_of_skipSpace_eq_cons passed)
    simp only [Option.bind_eq_bind, Option.bind_eq_some_iff] at read
    obtain ⟨_, _, read⟩ := read
    split at read
    · rename_i again
      cases read
      exact suffix_of_skipSpace_eq_cons again
    · simp at read
    · simp only [Option.bind_eq_some_iff] at read
      obtain ⟨⟨upper, between⟩, upperRead, _, _, read⟩ := read
      refine List.IsSuffix.trans ?_ ((count?_suffix upperRead).trans (skipSpace_suffix flags _))
      dsimp only at read
      split at read
      · rename_i closing
        split at read
        · cases read
          exact suffix_of_skipSpace_eq_cons closing
        · simp at read
      · simp at read
  · rename_i passed
    simp only [Option.bind_eq_bind, Option.bind_eq_some_iff, Option.some.injEq,
      Prod.mk.injEq] at read
    obtain ⟨_, _, _, _, rfl⟩ := read
    exact suffix_of_skipSpace_eq_cons passed
  · simp at read

theorem dropLazy_suffix (characters : List Char) : dropLazy characters <:+ characters := by
  unfold dropLazy
  split
  · exact List.suffix_cons _ _
  · exact List.suffix_rfl

/-! ## Pieces and branches -/

/-- What a character stands for that no backslash escapes. -/
def charExpr? (flags : Flags) (character : Char) : Option Expr :=
  if character = '.' then dot? flags
  else if character = '^' then some (.look (lineStart flags))
  else if character = '$' then some (.look (lineEnd flags))
  else (Atom.literal character false).expr? flags

theorem primitive?_eq_map (plain : first ≠ '\\') :
    primitive? flags (first :: rest) = (charExpr? flags first).map (·, rest) := by
  by_cases dot : first = '.'
  · subst dot
    rfl
  by_cases caret : first = '^'
  · subst caret
    rfl
  by_cases dollar : first = '$'
  · subst dollar
    rfl
  simp [primitive?, charExpr?, dot, caret, dollar]

theorem primitive?_backslash (rest : List Char) :
    primitive? flags ('\\' :: rest) =
      (escape? flags rest).bind fun read => (read.1.expr? flags).map (·, read.2) := by
  simp only [primitive?, Option.map_eq_bind]
  rfl

theorem primitive?_suffix
    {expr : Expr}
    (read : primitive? flags (first :: rest) = some (expr, after)) :
    after <:+ rest := by
  by_cases backslash : first = '\\'
  · subst backslash
    rw [primitive?_backslash, Option.bind_eq_some_iff] at read
    obtain ⟨⟨atom, _⟩, escaped, read⟩ := read
    simp only [Option.map_eq_some_iff, Prod.mk.injEq] at read
    obtain ⟨_, _, _, rfl⟩ := read
    cases rest with
    | nil => simp [escape?] at escaped
    | cons letter others => exact (escape?_suffix escaped).trans (List.suffix_cons letter others)
  · rw [primitive?_eq_map backslash, Option.map_eq_some_iff] at read
    obtain ⟨_, _, same⟩ := read
    cases same
    exact List.suffix_rfl

/-- Branches leave an end of the text. -/
theorem branches?_suffix
    {names allNames : List (List Char)}
    {branches pieces : List Piece}
    {fuel : Nat}
    {piece : Piece}
    (read : branches? flags names branches pieces fuel characters =
      some (piece, allNames, rest)) :
    rest <:+ characters := by
  induction fuel generalizing flags names allNames branches pieces piece characters rest with
  | zero => simp [branches?] at read
  | succ fuel hypothesis =>
      rw [branches?] at read
      split at read
      · cases read
        exact List.nil_suffix
      · rename_i passed
        cases read
        exact suffix_of_skipSpace_eq passed
      · rename_i passed
        exact (hypothesis read).trans (suffix_of_skipSpace_eq_cons passed)
      · rename_i passed
        have shorter := suffix_of_skipSpace_eq_cons passed
        split at read
        · simp at read
        · rename_i opened
          exact (hypothesis read).trans <| (opening?_suffix opened).trans shorter
        · rename_i opened
          split at read
          · simp at read
          split at read
          · rename_i inner
            exact (hypothesis read).trans <| (List.suffix_cons ')' _).trans <|
              (hypothesis inner).trans <| (opening?_suffix opened).trans shorter
          · simp at read
      · rename_i passed
        split at read
        · rename_i bracketed
          exact (hypothesis read).trans <| (List.suffix_cons ']' _).trans <|
            (Bracket.read?_suffix bracketed).trans (suffix_of_skipSpace_eq_cons passed)
        · simp at read
      · rename_i passed
        split at read
        · exact (hypothesis read).trans <| (dropLazy_suffix _).trans
            (suffix_of_skipSpace_eq_cons passed)
        · simp at read
      · rename_i passed
        split at read
        · exact (hypothesis read).trans <| (dropLazy_suffix _).trans
            (suffix_of_skipSpace_eq_cons passed)
        · simp at read
      · rename_i passed
        split at read
        · exact (hypothesis read).trans <| (dropLazy_suffix _).trans
            (suffix_of_skipSpace_eq_cons passed)
        · simp at read
      · rename_i passed
        split at read
        · rename_i counted
          split at read
          · exact (hypothesis read).trans <| (dropLazy_suffix _).trans <|
              (skipSpace_suffix flags _).trans <| (counts?_suffix counted).trans
                (suffix_of_skipSpace_eq_cons passed)
          · simp at read
        · simp at read
      · rename_i nonempty _ _ _ _ _ _ _ _
        split at read
        · rename_i primitive
          cases passed : skipSpace flags characters with
          | nil => exact absurd passed nonempty
          | cons first others =>
              rw [passed] at primitive
              exact (hypothesis read).trans <| (primitive?_suffix primitive).trans
                (suffix_of_skipSpace_eq_cons passed)
        · simp at read

end Regex
end WorkloadPolicy
