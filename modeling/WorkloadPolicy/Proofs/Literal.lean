import Mathlib.Data.Nat.Bitwise
import WorkloadPolicy.Check.Basic
import WorkloadPolicy.Proofs.CaseFold

/-!
# Literal patterns

An escaped text is read as the row of its characters, whatever characters it
has.  Between anchors it matches a value exactly when the value has the same
simple case folding, character by character.  It compiles unless it is too long
for the sets of its characters.
-/

namespace WorkloadPolicy
namespace Regex

open Unicode

/-! ## Positions -/

/-- A position is in the mask of a test when its character satisfies it. -/
theorem testBit_charMask (test : Char → Bool) (text : List Char) (index : Nat) :
    (charMask test text).testBit index = (text[index]?).any test := by
  induction text generalizing index with
  | nil => simp [charMask]
  | cons character text hypothesis =>
      rw [charMask]
      cases index with
      | zero =>
          rw [Nat.testBit_zero]
          cases holds : test character <;> simp [holds]
      | succ index =>
          have half :
              (2 * charMask test text + if test character then 1 else 0) / 2 =
                charMask test text := by
            split <;> omega
          rw [Nat.testBit_succ, half, hypothesis, List.getElem?_cons_succ]

/-- A position is in the mask of a condition when its neighbours satisfy it. -/
theorem testBit_gapMask
    (test : Option Char → Option Char → Bool)
    (before : Option Char)
    (text : List Char)
    (index : Nat) :
    (gapMask test before text).testBit index =
      (decide (index ≤ text.length) &&
        test (if index = 0 then before else text[index - 1]?) text[index]?) := by
  induction text generalizing before index with
  | nil =>
      rw [gapMask]
      cases index with
      | zero => cases holds : test before none <;> simp [holds]
      | succ index =>
          have half : (if test before none then 1 else 0) / 2 = 0 := by split <;> rfl
          rw [Nat.testBit_succ, half]
          simp
  | cons character text hypothesis =>
      rw [gapMask]
      cases index with
      | zero =>
          rw [Nat.testBit_zero]
          cases holds : test before (some character) <;> simp [holds]
      | succ index =>
          have half :
              (2 * gapMask test (some character) text +
                if test before (some character) then 1 else 0) / 2 =
                gapMask test (some character) text := by
            split <;> omega
          rw [Nat.testBit_succ, half, hypothesis]
          cases index <;> simp

namespace Expr

variable {text : List Char}

theorem ends_concat (first second : Expr) (positions : Nat) :
    (concat first second).ends text positions =
      second.ends text (first.ends text positions) := rfl

/-- A set leads from one position to the next if the character is in it. -/
theorem ends_set_two_pow (members : CharSet) (index : Nat) :
    (set members).ends text (2 ^ index) =
      if (text[index]?).any members.contains then 2 ^ (index + 1) else 0 := by
  rw [ends, Nat.two_pow_and, testBit_charMask]
  split <;> simp [*, Nat.pow_succ, Nat.mul_comm]

@[simp] theorem ends_set_zero (members : CharSet) : (set members).ends text 0 = 0 := by
  simp [ends]

/-- The start of the text is one position. -/
theorem ends_textStart :
    (look .textStart).ends text (1 <<< (text.length + 1) - 1) = 2 ^ 0 := by
  apply Nat.eq_of_testBit_eq
  intro index
  rw [ends, Nat.one_shiftLeft, Nat.testBit_and, Nat.testBit_two_pow_sub_one, testBit_gapMask,
    Nat.testBit_two_pow]
  cases index with
  | zero => simp [Look.holds]
  | succ index =>
      by_cases inside : index + 1 ≤ text.length
      · have earlier : index < text.length := by omega
        have before : text[index]? = some text[index] := List.getElem?_eq_getElem earlier
        simp [Look.holds, before]
      · simp [inside]

/-- The end of the text keeps the position after its characters only. -/
theorem ends_textEnd_ne_zero_iff (positions : Nat) :
    (look .textEnd).ends text positions ≠ 0 ↔ positions.testBit text.length = true := by
  have last (index : Nat) :
      (gapMask Look.textEnd.holds none text).testBit index = decide (index = text.length) := by
    rw [testBit_gapMask]
    rcases Nat.lt_trichotomy index text.length with inside | atEnd | outside
    · simp [Look.holds, inside.ne, List.getElem?_eq_getElem inside]
    · simp [Look.holds, atEnd]
    · simp [outside.ne', Nat.not_le.2 outside]
  rw [ends]
  constructor
  · intro reached
    obtain ⟨index, bit⟩ := Nat.exists_testBit_of_ne_zero reached
    rw [Nat.testBit_and, last, Bool.and_eq_true, decide_eq_true_eq] at bit
    exact bit.2 ▸ bit.1
  · intro bit empty
    have both := congrArg (Nat.testBit · text.length) empty
    simp [Nat.testBit_and, last, bit] at both

theorem ends_textEnd_two_pow (index : Nat) :
    (look .textEnd).ends text (2 ^ index) ≠ 0 ↔ index = text.length := by
  rw [ends_textEnd_ne_zero_iff, Nat.testBit_two_pow, decide_eq_true_eq]

end Expr

/-! ## Rows -/

namespace Piece

theorem ends_joinReversed_concat
    (text : List Char)
    (positions : Nat)
    (joined : Expr)
    (pieces : List Piece) :
    (joinReversed .concat joined pieces).ends text positions =
      joined.ends text
        (pieces.foldr (fun piece reached => piece.expr.ends text reached) positions) := by
  induction pieces generalizing joined with
  | nil => rfl
  | cons piece pieces hypothesis =>
      rw [joinReversed, hypothesis, Expr.ends_concat, List.foldr_cons]

theorem row_cons_cons (last second : Piece) (pieces : List Piece) :
    row (last :: second :: pieces) =
      ⟨joinReversed .concat last.expr (second :: pieces),
        greatestDepth (last :: second :: pieces) + 1, true⟩ := rfl

/-- A row goes through its pieces in order; they are given in reverse. -/
theorem ends_row (text : List Char) (positions : Nat) (pieces : List Piece) :
    (row pieces).expr.ends text positions =
      pieces.foldr (fun piece reached => piece.expr.ends text reached) positions := by
  match pieces with
  | [] => rfl
  | [_] => rfl
  | last :: second :: pieces =>
      rw [row_cons_cons, ends_joinReversed_concat]
      rfl

/-- The piece of one literal character, whatever its case. -/
def ofChar (character : Char) : Piece :=
  ⟨.set (.variantsOf character.toNat), 0, true⟩

theorem greatestDepth_ofChar (start : Nat) (characters : List Char) :
    (characters.map ofChar).foldl (fun depth piece => max depth piece.depth) start = start := by
  induction characters with
  | nil => rfl
  | cons character characters hypothesis => simpa [ofChar] using hypothesis

/-- A row of literal characters is at most one level deep. -/
theorem depth_row_ofChar (characters : List Char) :
    (row (characters.map ofChar)).depth ≤ 1 := by
  match characters with
  | [] => exact Nat.zero_le 1
  | [_] => exact Nat.zero_le 1
  | last :: second :: characters =>
      have depth := greatestDepth_ofChar 0 (last :: second :: characters)
      rw [List.map_cons, List.map_cons, row_cons_cons, ← List.map_cons, ← List.map_cons]
      exact (congrArg (· + 1) depth).le

end Piece

/-- The expression of an escaped text between anchors. -/
def literalExpr (characters : List Char) : Expr :=
  .concat (.look .textStart)
    (.concat (Piece.row (characters.reverse.map .ofChar)).expr (.look .textEnd))

section Matching

variable {text : List Char}

/-- Folding of a text, character by character. -/
def folded (characters : List Char) : List Nat :=
  characters.map fun character => simpleFold character.toNat

/-- A row of literal characters leads from a position past the characters that
have the same folding. -/
theorem ends_ofChar (characters : List Char) (index : Nat) :
    characters.foldl (fun reached character => (Piece.ofChar character).expr.ends text reached)
        (2 ^ index) =
      if folded characters <+: folded (text.drop index) then
        2 ^ (index + characters.length)
      else
        0 := by
  induction characters generalizing index with
  | nil => simp [folded]
  | cons character characters hypothesis =>
      have lost :
          characters.foldl
            (fun reached character => (Piece.ofChar character).expr.ends text reached) 0 = 0 := by
        clear hypothesis
        induction characters with
        | nil => rfl
        | cons head characters again => simpa [Piece.ofChar] using again
      rw [List.foldl_cons, Piece.ofChar, Expr.ends_set_two_pow]
      cases present : text[index]? with
      | none =>
          have past : text.drop index = [] := by
            rw [List.drop_eq_nil_iff]
            exact List.getElem?_eq_none_iff.1 present
          simpa [past, folded] using lost
      | some found =>
          have split : text.drop index = found :: text.drop (index + 1) :=
            List.drop_eq_getElem?_toList_append.trans (by simp [present])
          by_cases same : simpleFold found.toNat = simpleFold character.toNat
          · have inSet :
                (CharSet.variantsOf character.toNat).contains found = true :=
              (CharSet.contains_variantsOf found).2 same
            simp only [Option.any_some, inSet, ↓reduceIte]
            rw [hypothesis, split]
            simp [folded, same, Nat.add_assoc, Nat.add_comm 1]
          · have outside :
                (CharSet.variantsOf character.toNat).contains found = false := by
              rw [← Bool.not_eq_true, CharSet.contains_variantsOf]
              exact same
            simp only [Option.any_some, outside, Bool.false_eq_true, ↓reduceIte]
            rw [lost, split]
            simp [folded, Ne.symm same]

/-- An escaped text between anchors matches the texts with the same folding. -/
theorem matchesIn_literalExpr (characters : List Char) :
    (literalExpr characters).matchesIn text = true ↔ folded text = folded characters := by
  have reached :
      (Piece.row (characters.reverse.map Piece.ofChar)).expr.ends text (2 ^ 0) =
        if folded characters <+: folded text then 2 ^ characters.length else 0 := by
    rw [Piece.ends_row, List.foldr_map, List.foldr_reverse, ends_ofChar, List.drop_zero,
      Nat.zero_add]
  rw [Expr.matchesIn, literalExpr, Expr.ends_concat, Expr.ends_concat, Expr.ends_textStart, reached,
    bne_iff_ne]
  split
  · rename_i front
    rw [Expr.ends_textEnd_two_pow]
    constructor
    · intro whole
      refine (front.eq_of_length ?_).symm
      simp [folded, whole]
    · intro same
      have lengths := congrArg List.length same
      simpa [folded] using lengths.symm
  · rename_i apart
    exact iff_of_false (by simp [Expr.ends]) fun same => apart (same ▸ List.prefix_rfl)

end Matching

/-! ## Reading -/

section Reading

variable
  {names : List (List Char)}
  {branches pieces : List Piece}
  {rest : List Char}

/-- The flags under which literal patterns are read. -/
def literalFlags : Flags := { insensitive := true }

/-- An escaped character with a meaning of its own is a literal character. -/
theorem primitive?_escaped {character : Char} (special : isMeta character = true) :
    primitive? literalFlags ('\\' :: character :: rest) =
      some ((Piece.ofChar character).expr, rest) := by
  simp only [isMeta, List.contains_iff_mem, List.mem_cons, List.not_mem_nil, or_false] at special
  rcases special with rfl | rfl | rfl | rfl | rfl | rfl | rfl | rfl | rfl | rfl | rfl | rfl |
    rfl | rfl | rfl | rfl | rfl | rfl <;> rfl

/-- Another character stands for itself. -/
theorem primitive?_plain {character : Char} (plain : isMeta character = false) :
    primitive? literalFlags (character :: rest) =
      some ((Piece.ofChar character).expr, rest) := by
  simp only [isMeta, ← Bool.not_eq_true, List.contains_iff_mem, List.mem_cons, not_or] at plain
  unfold primitive?
  split
  · simp_all
  · simp_all
  · simp_all
  · simp_all
  · rename_i equal
    cases equal
    rfl
  · simp_all

/-- What is read as one character, an escape, an anchor or a dot is one more piece
of the branch. -/
theorem branches?_of_primitive?
    {first : Char}
    (ordinary : first ∉ [')', '|', '(', '[', '?', '*', '+', '\x7b'])
    {after : List Char}
    {expr : Expr}
    (read : primitive? literalFlags (first :: rest) = some (expr, after))
    (fuel : Nat) :
    branches? literalFlags names branches pieces (fuel + 1) (first :: rest) =
      branches? literalFlags names branches (⟨expr, 0, true⟩ :: pieces) fuel after := by
  simp only [List.mem_cons, List.not_mem_nil, or_false, not_or] at ordinary
  have passed : skipSpace literalFlags (first :: rest) = first :: rest := rfl
  rw [branches?, passed]
  -- The cases are those of the reader; only the last one is open to `first`.
  split <;> simp_all

/-- An escaped text is read character by character. -/
theorem branches?_escapeChars (characters : List Char) (fuel : Nat) :
    branches? literalFlags names branches pieces (fuel + characters.length)
        (escapeChars characters ++ rest) =
      branches? literalFlags names branches
        (characters.reverse.map Piece.ofChar ++ pieces) fuel rest := by
  induction characters generalizing pieces with
  | nil => rfl
  | cons character characters hypothesis =>
      have more : fuel + (character :: characters).length = fuel + characters.length + 1 := rfl
      rw [more, escapeChars]
      cases special : isMeta character with
      | true =>
          rw [if_pos rfl, List.cons_append, List.cons_append,
            branches?_of_primitive? (by decide) (primitive?_escaped special), hypothesis]
          simp [Piece.ofChar]
      | false =>
          have ordinary : character ∉ [')', '|', '(', '[', '?', '*', '+', '\x7b'] := by
            simp only [isMeta, ← Bool.not_eq_true, List.contains_iff_mem, List.mem_cons,
              not_or] at special
            simp [special]
          rw [if_neg Bool.false_ne_true, List.cons_append,
            branches?_of_primitive? ordinary (primitive?_plain special), hypothesis]
          simp [Piece.ofChar]

theorem length_le_length_escapeChars (characters : List Char) :
    characters.length ≤ (escapeChars characters).length := by
  induction characters with
  | nil => exact Nat.le_refl 0
  | cons character characters hypothesis =>
      rw [escapeChars]
      split <;> simp only [List.length_cons] <;> omega

/-- A group that does not capture keeps the flags. -/
theorem opening?_group :
    opening? literalFlags ('?' :: ':' :: rest) = some (.group false none literalFlags, rest) :=
  rfl

theorem branches?_group
    {inner : Piece}
    {after : List Char}
    (fuel : Nat)
    (read : branches? literalFlags names [] [] fuel rest = some (inner, names, ')' :: after)) :
    branches? literalFlags names branches pieces (fuel + 1) ('(' :: '?' :: ':' :: rest) =
      branches? literalFlags names branches (⟨inner.expr, inner.depth + 1, true⟩ :: pieces)
        fuel after := by
  have passed : skipSpace literalFlags ('(' :: '?' :: ':' :: rest) = '(' :: '?' :: ':' :: rest :=
    rfl
  rw [branches?, passed]
  simp [opening?_group, read]

theorem branches?_close (fuel : Nat) :
    branches? literalFlags names branches pieces (fuel + 1) (')' :: rest) =
      some (.choice (.row pieces :: branches), names, ')' :: rest) :=
  rfl

theorem branches?_end (fuel : Nat) :
    branches? literalFlags names branches pieces (fuel + 1) [] =
      some (.choice (.row pieces :: branches), names, []) :=
  rfl

/-- An escaped text between anchors is read as its literal expression. -/
theorem read?_anchored (characters : List Char) :
    read? literalFlags ('^' :: '(' :: '?' :: ':' :: (escapeChars characters ++ [')', '$'])) =
      some (literalExpr characters) := by
  obtain ⟨spare, longer⟩ := Nat.exists_eq_add_of_le (length_le_length_escapeChars characters)
  have fuel :
      ('^' :: '(' :: '?' :: ':' :: (escapeChars characters ++ [')', '$'])).length + 1 =
        (spare + 4 + 1 + characters.length + 1) + 1 := by
    simp only [List.length_cons, List.length_append, List.length_nil, longer]
    omega
  have steps : spare + 4 + 1 + characters.length = spare + characters.length + 3 + 1 + 1 := by
    omega
  have inner :
      branches? literalFlags [] [] [] (spare + 4 + 1 + characters.length)
          (escapeChars characters ++ [')', '$']) =
        some (.row (characters.reverse.map Piece.ofChar), [], [')', '$']) := by
    rw [branches?_escapeChars, branches?_close, List.append_nil]
    rfl
  have shallow :
      (Piece.row
        [⟨.look .textEnd, 0, true⟩,
          ⟨(Piece.row (characters.reverse.map Piece.ofChar)).expr,
            (Piece.row (characters.reverse.map Piece.ofChar)).depth + 1, true⟩,
          ⟨.look .textStart, 0, true⟩]).depth ≤ greatestDepth := by
    have depth := Piece.depth_row_ofChar characters.reverse
    simp only [Piece.row_cons_cons, Piece.greatestDepth, List.foldl_cons, List.foldl_nil,
      greatestDepth]
    omega
  rw [read?, fuel, branches?_of_primitive? (by decide) rfl, branches?_group _ inner, steps,
    branches?_of_primitive? (by decide) rfl, branches?_end]
  exact if_pos shallow

end Reading

/-! ## Sizes -/

namespace Size

section Row

variable
  {setSize : CharSet → Nat}
  {groupSize most : Nat}

/-- Joined pieces take the size of all of them. -/
theorem expr_joinReversed_concat_le
    {pieces : List Piece}
    (small : ∀ piece ∈ pieces, expr setSize groupSize piece.expr ≤ most)
    (joined : Expr) :
    expr setSize groupSize (Piece.joinReversed .concat joined pieces) ≤
      pieces.length * most + expr setSize groupSize joined := by
  induction pieces generalizing joined with
  | nil => simp [Piece.joinReversed]
  | cons piece pieces hypothesis =>
      obtain ⟨first, others⟩ := List.forall_mem_cons.1 small
      have rest := hypothesis others (.concat piece.expr joined)
      have both :
          expr setSize groupSize (.concat piece.expr joined) =
            expr setSize groupSize piece.expr + expr setSize groupSize joined := rfl
      rw [Piece.joinReversed, List.length_cons, Nat.succ_mul]
      omega

theorem expr_row_le
    {pieces : List Piece}
    (small : ∀ piece ∈ pieces, expr setSize groupSize piece.expr ≤ most) :
    expr setSize groupSize (Piece.row pieces).expr ≤ state + pieces.length * most := by
  match pieces with
  | [] => exact Nat.le_add_right _ _
  | [piece] =>
      have only := small piece List.mem_cons_self
      rw [Piece.row, List.length_singleton]
      omega
  | last :: second :: pieces =>
      obtain ⟨first, others⟩ := List.forall_mem_cons.1 small
      have rest := expr_joinReversed_concat_le others last.expr
      rw [Piece.row_cons_cons, List.length_cons, Nat.succ_mul]
      show expr setSize groupSize (Piece.joinReversed .concat last.expr (second :: pieces)) ≤ _
      omega

theorem expr_literalExpr_le
    {characters : List Char}
    (small : ∀ character ∈ characters, setSize (.variantsOf character.toNat) ≤ most) :
    expr setSize groupSize (literalExpr characters) ≤ 3 * state + characters.length * most := by
  have row := @expr_row_le setSize groupSize most (characters.reverse.map Piece.ofChar) <| by
    rw [List.forall_mem_map]
    exact fun character member => small character (List.mem_reverse.1 member)
  rw [List.length_map, List.length_reverse] at row
  have parts :
      expr setSize groupSize (literalExpr characters) =
        state + (expr setSize groupSize (Piece.row (characters.reverse.map .ofChar)).expr +
          state) := rfl
  omega

end Row

/-- An expression fits if it does whatever its sets take, but no more than backwards, and
with the groups of the automaton that reads forwards. -/
theorem fits_of_le
    {expression : Expr}
    (bounded : ∀ setSize groupSize, (∀ members, setSize members ≤ set members) →
      groupSize ≤ 2 * state → expr setSize groupSize expression ≤ greatest) :
    fits expression = true := by
  have forward (members : CharSet) :
      (if members.isAscii then set members else set members / 2) ≤ set members := by
    split
    · exact le_rfl
    · exact Nat.div_le_self _ _
  rw [fits, Bool.and_eq_true, decide_eq_true_eq, decide_eq_true_eq]
  exact ⟨bounded set 0 (fun _ => le_rfl) (Nat.zero_le _), bounded _ _ forward le_rfl⟩

/-- A literal fits if the sets of its characters are small and it is not too long. -/
theorem fits_literalExpr
    {characters : List Char}
    {most : Nat}
    (small : ∀ character ∈ characters, set (.variantsOf character.toNat) ≤ most)
    (short : 3 * state + characters.length * most ≤ greatest) :
    fits (literalExpr characters) = true := by
  apply fits_of_le
  intro setSize groupSize less _
  have each : ∀ character ∈ characters, setSize (.variantsOf character.toNat) ≤ most :=
    fun character member => (less _).trans (small character member)
  exact (expr_literalExpr_le each).trans short

/-- The size of the set of both cases of an ASCII letter. -/
theorem set_pair
    {upper lower : Nat}
    (apart : upper + 1 < lower)
    (ascii : lower < 0x80) :
    set ⟨[(lower, lower), (upper, upper)]⟩ = 2 * state + 16 := by
  have later : ¬ lower ≤ upper := by omega
  have detached : ¬ lower ≤ upper + 1 := by omega
  have ranges :
      (⟨[(lower, lower), (upper, upper)]⟩ : CharSet).merged.ranges =
        [(upper, upper), (lower, lower)] := by
    simp [CharSet.merged, CharSet.joinRanges, List.mergeSort,
      List.MergeSort.Internal.splitInTwo, later, detached]
  have upperAscii : upper < 0x80 := by omega
  simp [set, ranges, CharSet.isAscii, ascii, upperAscii]

/-- The same size for the cases in their order. -/
theorem set_pair_sorted
    {upper lower : Nat}
    (apart : upper + 1 < lower)
    (ascii : lower < 0x80) :
    set ⟨[(upper, upper), (lower, lower)]⟩ = 2 * state + 16 := by
  have ordered : upper ≤ lower := by omega
  have detached : ¬ lower ≤ upper + 1 := by omega
  have ranges :
      (⟨[(upper, upper), (lower, lower)]⟩ : CharSet).merged.ranges =
        [(upper, upper), (lower, lower)] := by
    simp [CharSet.merged, CharSet.joinRanges, List.mergeSort,
      List.MergeSort.Internal.splitInTwo, ordered, detached]
  have upperAscii : upper < 0x80 := by omega
  simp [set, ranges, CharSet.isAscii, ascii, upperAscii]

/-- The size of the set of one ASCII character. -/
theorem set_single {code : Nat} (ascii : code < 0x80) : set ⟨[(code, code)]⟩ = state := by
  have ranges : (⟨[(code, code)]⟩ : CharSet).merged.ranges = [(code, code)] := by
    simp [CharSet.merged, CharSet.joinRanges]
  simp [set, ranges, bytes, ascii]

end Size
end Regex

/-! ## Patterns -/

namespace Pattern

/-- An escaped text between anchors is a pattern unless it is too large. -/
theorem compile?_anchored_escape (text : String) :
    compile? true (anchored (Regex.escape text)) =
      if Regex.Size.fits (Regex.literalExpr text.toList) then
        some ⟨anchored (Regex.escape text), Regex.literalExpr text.toList⟩
      else
        none := by
  have source :
      (anchored (Regex.escape text)).toList =
        '^' :: '(' :: '?' :: ':' :: (Regex.escapeChars text.toList ++ [')', '$']) := by
    simp [anchored, Regex.escape]
  have read :
      Regex.read? ⟨true, false, false, false, false, true⟩
          (anchored (Regex.escape text)).toList =
        some (Regex.literalExpr text.toList) := by
    rw [source]
    exact Regex.read?_anchored text.toList
  rw [compile?, read]

end Pattern

/-- Two texts are the same up to simple case folding. -/
def Text.SameFolded (left right : String) : Prop :=
  Regex.folded left.toList = Regex.folded right.toList

instance (left right : String) : Decidable (Text.SameFolded left right) :=
  inferInstanceAs (Decidable (_ = _))

/-- A literal pattern for whole values matches the values with the same folding. -/
theorem isMatch_of_compileWhole_escape
    {check text : String}
    {pattern : Pattern}
    (compiled : compileWhole check (Regex.escape text) = .ok pattern)
    (value : String) :
    pattern.isMatch value = true ↔ Text.SameFolded value text := by
  rw [compileWhole_eq_ok_iff, Pattern.compile?_anchored_escape] at compiled
  split at compiled
  · cases compiled
    exact Regex.matchesIn_literalExpr text.toList
  · simp at compiled

/-- A literal pattern compiles if it is not too long for the sets of its characters. -/
theorem exists_compileWhole_escape
    {check text : String}
    {most : Nat}
    (small : ∀ character ∈ text.toList,
      Regex.Size.set (.variantsOf character.toNat) ≤ most)
    (short : 3 * Regex.Size.state + text.toList.length * most ≤ Regex.Size.greatest) :
    ∃ pattern, compileWhole check (Regex.escape text) = .ok pattern := by
  refine ⟨⟨Pattern.anchored (Regex.escape text), Regex.literalExpr text.toList⟩, ?_⟩
  rw [compileWhole, Pattern.compile?_anchored_escape,
    if_pos (Regex.Size.fits_literalExpr small short)]

end WorkloadPolicy
