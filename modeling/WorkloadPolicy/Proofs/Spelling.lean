import WorkloadPolicy.Check.Capability
import WorkloadPolicy.Proofs.Anchoring

/-!
# The pattern for capabilities

The pattern for some capabilities is read as an optional `CAP_` before a choice of
their names, whatever characters these have.  It matches the values that have the
same simple case folding as one of the names, with or without `CAP_` in front.
-/

namespace WorkloadPolicy
namespace Regex

open Unicode

variable {text : List Char}

/-! ## Literals one after the other -/

/-- The expression of a text that is taken literally. -/
def literal (characters : List Char) : Expr :=
  (Piece.row (characters.reverse.map .ofChar)).expr

theorem ends_literal (characters : List Char) (positions : Nat) :
    (literal characters).ends text positions =
      characters.foldl (fun reached character => (Piece.ofChar character).expr.ends text reached)
        positions := by
  rw [literal, Piece.ends_row, List.foldr_map, List.foldr_reverse]

/-- A literal spans the texts with the same folding. -/
theorem spans_literal (characters : List Char) :
    (literal characters).spans text = true ↔ folded text = folded characters := by
  rw [← matchesIn_anchoredExpr]
  exact matchesIn_literalExpr characters

/-- One literal after another is one literal. -/
theorem ends_literal_append (first second : List Char) (positions : Nat) :
    (literal second).ends text ((literal first).ends text positions) =
      (literal (first ++ second)).ends text positions := by
  simp only [ends_literal, List.foldl_append]

/-- A literal leads from several positions wherever it leads from one of them. -/
theorem ends_literal_or (characters : List Char) (first second : Nat) :
    (literal characters).ends text (first ||| second) =
      (literal characters).ends text first ||| (literal characters).ends text second := by
  simp only [ends_literal]
  induction characters generalizing first second with
  | nil => rfl
  | cons character characters hypothesis =>
      have step :
          (Piece.ofChar character).expr.ends text (first ||| second) =
            (Piece.ofChar character).expr.ends text first |||
              (Piece.ofChar character).expr.ends text second := by
        simp only [Piece.ofChar, Expr.ends, Nat.and_or_distrib_right, Nat.mul_comm 2,
          ← Nat.shiftLeft_eq _ 1, Nat.shiftLeft_or_distrib]
      rw [List.foldl_cons, step, hypothesis]
      rfl

/-! ## Options and choices -/

theorem ends_capture (body : Expr) (positions : Nat) :
    (Expr.capture body).ends text positions = body.ends text positions := rfl

/-- An option may be left out. -/
theorem ends_option (body : Expr) (positions : Nat) :
    (Expr.repeat body 0 (some 1)).ends text positions =
      positions ||| body.ends text positions := by
  simp only [Expr.ends, iterate, Nat.sub_zero, upTo]
  split
  · rename_i same
    exact same.symm
  · rfl

namespace Piece

theorem testBit_ends_joinReversed_alternate
    (positions index : Nat)
    (joined : Expr)
    (pieces : List Piece) :
    ((joinReversed .alternate joined pieces).ends text positions).testBit index =
      ((joined.ends text positions).testBit index ||
        pieces.any fun piece => (piece.expr.ends text positions).testBit index) := by
  induction pieces generalizing joined with
  | nil => simp [joinReversed]
  | cons piece pieces hypothesis =>
      rw [joinReversed, hypothesis, Expr.ends, Nat.testBit_or, List.any_cons, Bool.or_left_comm,
        Bool.or_assoc]

/-- A choice leads wherever one of its branches leads. -/
theorem testBit_ends_choice
    {pieces : List Piece}
    (inhabited : pieces ≠ [])
    (positions index : Nat) :
    ((choice pieces).expr.ends text positions).testBit index =
      pieces.any fun piece => (piece.expr.ends text positions).testBit index := by
  match pieces, inhabited with
  | [_], _ => simp [choice]
  | last :: second :: pieces, _ =>
      show ((joinReversed .alternate last.expr (second :: pieces)).ends text positions).testBit
        index = _
      rw [testBit_ends_joinReversed_alternate]
      rfl

end Piece

/-! ## Reading -/

section Reading

variable
  {groups : List (List Char)}
  {branches pieces : List Piece}
  {rest : List Char}

/-- The piece of a text that is taken literally. -/
def literalPiece (characters : List Char) : Piece :=
  Piece.row (characters.reverse.map .ofChar)

theorem branches?_bar (fuel : Nat) :
    branches? literalFlags groups branches pieces (fuel + 1) ('|' :: rest) =
      branches? literalFlags groups (.row pieces :: branches) [] fuel rest :=
  rfl

/-- A question mark that is not doubled makes the last piece optional. -/
theorem branches?_option
    {piece : Piece}
    (repeatable : piece.repeatable = true)
    (single : rest.head? ≠ some '?')
    (fuel : Nat) :
    branches? literalFlags groups branches (piece :: pieces) (fuel + 1) ('?' :: rest) =
      branches? literalFlags groups branches (piece.repeated 0 (some 1) :: pieces) fuel rest := by
  have greedy : dropLazy rest = rest := by
    cases rest with
    | nil => rfl
    | cons first rest =>
        unfold dropLazy
        split
        · simp_all
        · rfl
  have passed : skipSpace literalFlags ('?' :: rest) = '?' :: rest := rfl
  rw [branches?, passed]
  simp [repeatLast?, repeatable, greedy]

/-- A group that begins with neither a name nor flags captures what is read in it. -/
theorem branches?_capture
    {inner : Piece}
    {after : List Char}
    (unmarked : rest.head? ≠ some '?')
    (fuel : Nat)
    (read : branches? literalFlags groups [] [] fuel rest = some (inner, groups, ')' :: after)) :
    branches? literalFlags groups branches pieces (fuel + 1) ('(' :: rest) =
      branches? literalFlags groups branches
        (⟨.capture inner.expr, inner.depth + 1, true⟩ :: pieces) fuel after := by
  have passed (characters : List Char) : skipSpace literalFlags characters = characters := rfl
  have opened : opening? literalFlags rest = some (.group true none literalFlags, rest) := by
    unfold opening?
    rw [passed]
    split <;> simp_all
  rw [branches?, passed]
  simp [opened, read]

/-- Escaped names with bars between them. -/
def namesText (names : List (List Char)) : List Char :=
  List.intercalate ['|'] (names.map escapeChars)

theorem namesText_singleton (name : List Char) : namesText [name] = escapeChars name :=
  List.intercalate_singleton

theorem namesText_cons_cons (name next : List Char) (names : List (List Char)) :
    namesText (name :: next :: names) = escapeChars name ++ '|' :: namesText (next :: names) := by
  simp [namesText, List.intercalate_cons_cons]

/-- Names with bars between them are read as a choice of literals. -/
theorem branches?_namesText (name : List Char) (names : List (List Char)) (fuel : Nat) :
    branches? literalFlags groups branches []
        (fuel + ((name :: names).map fun other => other.length + 1).sum)
        (namesText (name :: names) ++ ')' :: rest) =
      some (.choice (((name :: names).map literalPiece).reverse ++ branches), groups,
        ')' :: rest) := by
  induction names generalizing name branches with
  | nil =>
      have steps :
          fuel + ([name].map fun other => other.length + 1).sum = fuel + 1 + name.length := by
        simp only [List.map_cons, List.map_nil, List.sum_cons, List.sum_nil]
        omega
      rw [steps, namesText_singleton, branches?_escapeChars, branches?_close, List.append_nil]
      rfl
  | cons next names hypothesis =>
      have steps :
          fuel + ((name :: next :: names).map fun other => other.length + 1).sum =
            fuel + ((next :: names).map fun other => other.length + 1).sum + 1 + name.length := by
        simp only [List.map_cons, List.sum_cons]
        omega
      rw [steps, namesText_cons_cons, List.append_assoc, branches?_escapeChars, List.cons_append,
        branches?_bar, hypothesis]
      simp [literalPiece]

/-- An escaped text does not begin with a question mark, whatever comes after it. -/
theorem head?_escapeChars
    (characters : List Char)
    {first : Char}
    (different : first ≠ '?')
    (rest : List Char) :
    (escapeChars characters ++ first :: rest).head? ≠ some '?' := by
  cases characters with
  | nil => simpa [escapeChars] using different
  | cons character characters =>
      rw [escapeChars]
      cases special : isMeta character with
      | true => simp
      | false =>
          have other : character ≠ '?' := by
            rintro rfl
            exact Bool.noConfusion special
          simpa using other

theorem head?_namesText
    (names : List (List Char))
    {first : Char}
    (different : first ≠ '?')
    (rest : List Char) :
    (namesText names ++ first :: rest).head? ≠ some '?' := by
  match names with
  | [] => simpa [namesText] using different
  | [name] =>
      rw [namesText_singleton]
      exact head?_escapeChars name different rest
  | name :: next :: names =>
      rw [namesText_cons_cons, List.append_assoc, List.cons_append]
      exact head?_escapeChars name (by decide) _

/-- Reading names takes no more steps than their text has characters, and one. -/
theorem sum_le_length_namesText (names : List (List Char)) :
    (names.map fun name => name.length + 1).sum ≤ (namesText names).length + 1 := by
  match names with
  | [] => exact Nat.zero_le _
  | [name] =>
      have shorter := length_le_length_escapeChars name
      rw [List.map_singleton, List.sum_singleton, namesText_singleton]
      omega
  | name :: next :: names =>
      have shorter := length_le_length_escapeChars name
      have others := sum_le_length_namesText (next :: names)
      rw [List.map_cons, List.sum_cons, namesText_cons_cons, List.length_append, List.length_cons]
      omega

/-- The text of the pattern for some capabilities. -/
def spellingText (names : List (List Char)) : List Char :=
  '(' :: 'C' :: 'A' :: 'P' :: '_' :: ')' :: '?' :: '(' :: (namesText names ++ [')'])

/-- The expression of the pattern for some capabilities. -/
def spellingExpr (names : List (List Char)) : Expr :=
  .concat (.repeat (.capture (literal ['C', 'A', 'P', '_'])) 0 (some 1))
    (.capture (Piece.choice (names.map literalPiece).reverse).expr)

/-- The pattern for some capabilities is read to its end. -/
theorem branches?_spellingText (name : List Char) (names : List (List Char)) :
    ∃ piece, piece.expr = spellingExpr (name :: names) ∧
      branches? literalFlags [] [] [] ((spellingText (name :: names)).length + 1)
          (spellingText (name :: names)) =
        some (piece, [], []) := by
  obtain ⟨spare, longer⟩ := Nat.exists_eq_add_of_le (sum_le_length_namesText (name :: names))
  let steps := ((name :: names).map fun other => other.length + 1).sum
  have fuel : (spellingText (name :: names)).length + 1 = spare + steps + 8 + 1 := by
    simp only [spellingText, List.length_cons, List.length_append, List.length_nil]
    omega
  have mark :
      branches? literalFlags [] [] [] (spare + steps + 8)
          ('C' :: 'A' :: 'P' :: '_' :: ')' :: '?' :: '(' :: (namesText (name :: names) ++ [')'])) =
        some (literalPiece ['C', 'A', 'P', '_'], [],
          ')' :: '?' :: '(' :: (namesText (name :: names) ++ [')'])) :=
    branches?_escapeChars ['C', 'A', 'P', '_'] (spare + steps + 4)
  have choice :
      branches? literalFlags [] [] [] (spare + steps + 6) (namesText (name :: names) ++ [')']) =
        some (.choice ((name :: names).map literalPiece).reverse, [], [')']) := by
    have moved : spare + steps + 6 = spare + 6 + steps := by omega
    rw [moved, branches?_namesText, List.append_nil]
  have unmarked := head?_namesText (name :: names) (by decide : ')' ≠ '?') []
  rw [fuel, spellingText, branches?_capture (by simp) _ mark, branches?_option rfl (by simp),
    branches?_capture unmarked _ choice, branches?_end]
  exact ⟨_, rfl, rfl⟩

end Reading

/-! ## Matching -/

/-- The pattern for some capabilities spans the spellings of their names. -/
theorem spans_spellingExpr {names : List (List Char)} (inhabited : names ≠ []) :
    (spellingExpr names).spans text = true ↔
      ∃ name ∈ names,
        folded text = folded name ∨ folded text = folded (['C', 'A', 'P', '_'] ++ name) := by
  have choice :
      (spellingExpr names).spans text =
        names.any fun name =>
          ((literal name).ends text (1 ||| (literal ['C', 'A', 'P', '_']).ends text 1)).testBit
            text.length := by
    have branches : (names.map literalPiece).reverse ≠ [] := by simpa using inhabited
    rw [Expr.spans, spellingExpr, Expr.ends_concat, ends_option, ends_capture, ends_capture,
      Piece.testBit_ends_choice branches, List.any_reverse, List.any_map]
    rfl
  rw [choice, List.any_eq_true]
  refine exists_congr fun name => and_congr_right fun _ => ?_
  rw [ends_literal_or, ends_literal_append, Nat.testBit_or, Bool.or_eq_true]
  exact or_congr (spans_literal name) (spans_literal (['C', 'A', 'P', '_'] ++ name))

/-! ## Sizes -/

namespace Size

/-- The pattern for one capability fits if the sets of its characters are small and the
name is not too long. -/
theorem fits_spellingExpr
    {name : List Char}
    {most : Nat}
    (small : ∀ character ∈ 'C' :: 'A' :: 'P' :: '_' :: name,
      set (.variantsOf character.toNat) ≤ most)
    (short : 9 * state + branch + (4 + name.length) * most ≤ greatest) :
    fits (anchoredExpr (spellingExpr [name])) = true := by
  apply fits_of_le
  intro setSize groupSize less group
  have literals
      {characters : List Char}
      (inside : ∀ character ∈ characters, character ∈ 'C' :: 'A' :: 'P' :: '_' :: name) :
      expr setSize groupSize (literal characters) ≤ state + characters.length * most := by
    have row := @expr_row_le setSize groupSize most (characters.reverse.map Piece.ofChar) <| by
      rw [List.forall_mem_map]
      exact fun character member =>
        (less _).trans (small character (inside character (List.mem_reverse.1 member)))
    rwa [List.length_map, List.length_reverse] at row
  have mark := @literals ['C', 'A', 'P', '_'] (by simp)
  have own := @literals name fun character member => by simp [member]
  have parts :
      expr setSize groupSize (anchoredExpr (spellingExpr [name])) =
        state +
          ((0 * (expr setSize groupSize (literal ['C', 'A', 'P', '_']) + groupSize) +
                (1 - 0) *
                  (expr setSize groupSize (literal ['C', 'A', 'P', '_']) + groupSize + branch) +
                state +
              (expr setSize groupSize (literal name) + groupSize)) +
            state) := rfl
  rw [Nat.add_mul] at short
  simp only [List.length_cons, List.length_nil] at mark
  omega

end Size
end Regex

/-- A pattern that is read to its end has the expression that is read. -/
theorem Pattern.expr_of_compile?
    {text : String}
    {pattern : Pattern}
    {piece : Regex.Piece}
    {groups : List (List Char)}
    (read :
      Regex.branches? Regex.literalFlags [] [] [] (text.toList.length + 1) text.toList =
        some (piece, groups, []))
    (compiled : compile? true text = some pattern) :
    pattern.expr = piece.expr := by
  unfold compile? at compiled
  split at compiled
  · rename_i expr found
    have whole : Regex.read? Regex.literalFlags text.toList = some expr := found
    simp only [Regex.read?, read, Option.ite_none_right_eq_some] at whole
    split at compiled
    · cases compiled
      exact (Option.some.inj whole.2).symm
    · simp at compiled
  · simp at compiled

namespace Capability

open Regex Unicode

theorem toList_patternText (names : List String) :
    (patternText names).toList = spellingText (names.map String.toList) := by
  simp [patternText, spellingText, namesText, escape, String.toList_intercalate,
    Function.comp_def]

/-- Whether a text spells the name of a capability, with or without `CAP_` and in any
case. -/
def Spells (text name : String) : Prop :=
  Text.SameFolded text name ∨ Text.SameFolded text ("CAP_" ++ name)

instance (text name : String) : Decidable (Spells text name) :=
  inferInstanceAs (Decidable (_ ∨ _))

theorem not_spells_empty {name : String} (inhabited : name ≠ "") :
    ¬ Spells "" name := by
  rintro (same | same)
  · have none : name.toList = [] := by simpa [Text.SameFolded, folded] using same
    exact inhabited (String.toList_eq_nil_iff.1 none)
  · simp [Text.SameFolded, folded] at same

/-- The pattern for some capabilities matches the texts that spell one of them. -/
theorem isMatch_of_compileWhole_patternText
    {check : String}
    {names : List String}
    {pattern : Pattern}
    (inhabited : names ≠ [])
    (compiled : compileWhole check (patternText names) = .ok pattern)
    (value : String) :
    pattern.isMatch value = true ↔ ∃ name ∈ names, Spells value name := by
  obtain ⟨first, others, rfl⟩ := List.exists_cons_of_ne_nil inhabited
  obtain ⟨piece, same, read⟩ :=
    branches?_spellingText first.toList (others.map String.toList)
  rw [← List.map_cons] at read same
  rw [← toList_patternText] at read
  have balanced : Pattern.overcloses (patternText (first :: others)) = false := by
    rw [Pattern.overcloses, overcloses, read]
  obtain ⟨alone, formed, anchored⟩ :=
    Pattern.exists_of_compile?_anchored balanced (compileWhole_eq_ok_iff.1 compiled)
  have expr := (Pattern.expr_of_compile? read formed).trans same
  rw [Pattern.isMatch, anchored, matchesIn_anchoredExpr, expr, spans_spellingExpr (by simp)]
  simp [Spells, Text.SameFolded]

/-- The pattern for a short name compiles. -/
theorem exists_compileWhole_bpf (check : String) :
    ∃ pattern, compileWhole check (patternText ["bpf"]) = .ok pattern := by
  have read :
      Regex.read? ⟨true, false, false, false, false, true⟩
          (Pattern.anchored (patternText ["bpf"])).toList =
        some (anchoredExpr (spellingExpr ["bpf".toList])) := by
    decide +kernel
  have upper : ∀ code ∈ [67, 65, 80],
      CharSet.variantsOf code = ⟨[(code, code), (code + 32, code + 32)]⟩ ∧ code < 91 := by
    decide +kernel
  have lower : ∀ code ∈ [98, 112, 102],
      CharSet.variantsOf code = ⟨[(code, code), (code - 32, code - 32)]⟩ ∧
        96 < code ∧ code < 123 := by
    decide +kernel
  have sizes : ∀ code ∈ [67, 65, 80] ++ [95] ++ [98, 112, 102],
      Size.set (.variantsOf code) ≤ 80 := by
    intro code member
    rw [List.mem_append, List.mem_append] at member
    rcases member with (capital | underscore) | letter
    · obtain ⟨variants, ascii⟩ := upper code capital
      rw [variants, Size.set_pair_sorted (by omega) (by omega)]
      decide
    · have variants : CharSet.variantsOf 95 = ⟨[(95, 95)]⟩ := by decide +kernel
      rw [List.mem_singleton.1 underscore, variants, Size.set_single (by decide)]
      decide
    · obtain ⟨variants, above, below⟩ := lower code letter
      rw [variants, Size.set_pair (by omega) (by omega)]
      decide
  have small : ∀ character ∈ 'C' :: 'A' :: 'P' :: '_' :: "bpf".toList,
      Size.set (.variantsOf character.toNat) ≤ 80 := by
    have codes : ∀ character ∈ 'C' :: 'A' :: 'P' :: '_' :: "bpf".toList,
        character.toNat ∈ [67, 65, 80] ++ [95] ++ [98, 112, 102] := by
      simp
    exact fun character member => sizes _ (codes character member)
  have fits := Size.fits_spellingExpr small (by decide)
  simp only [compileWhole, Pattern.compile?, read, fits]
  exact ⟨_, rfl⟩
end Capability
end WorkloadPolicy
